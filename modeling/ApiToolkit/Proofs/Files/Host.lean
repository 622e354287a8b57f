import ApiToolkit.Proofs.Files.Tree
/-!
# Hosts that work on a tree

A host need not do what the tree would allow: there may be no permission, and writing may break off.
But what it does is what is done to the tree, and what fails leaves the tree alone.

## What is inside

- `Files.Host.Faithful`: hosts that work on a tree, with `Files.Tree.faithful_host`.
- `Files.Host.WritesWhole`: hosts that do not break off in the middle of a file.
- `Files.OnlyMakesDirectories`: actions that leave all files and links alone.
- `Files.Host.Faithful.makeDirectories`: making a directory and those above it is such an action.
-/

namespace ApiToolkit.Files

/-- A host that works on a tree.  Any operation may fail.  Nothing is said of moving directories. -/
structure Host.Faithful (host : Host (StateM Tree)) : Prop where
  /-- Looking changes nothing. -/
  isDirectory : ∀ path before, ((host.isDirectory path).run before).2 = before
  makeDirectory_ok : ∀ {path : String} {before after : Tree},
    (host.makeDirectory path).run before = (.ok (), after) → before.makeDirectory path = .ok after
  makeDirectory_error : ∀ {path : String} {fault : Fault} {before after : Tree},
    (host.makeDirectory path).run before = (.error fault, after) → after = before
  write_ok : ∀ {path : String} {content : List UInt8} {before after : Tree},
    (host.write path content).run before = (.ok (), after) → before.write path content = .ok after
  /-- Writing that fails may have begun. -/
  write_error : ∀ {path : String} {content : List UInt8} {fault : Fault} {before after : Tree},
    (host.write path content).run before = (.error fault, after) →
      after = before ∨ ∃ part, part <+: content ∧ before.write path part = .ok after
  move_ok : ∀ {source target : String} {before after : Tree},
    (∀ place, before.locate false source = .ok place → before.find? place ≠ some .directory) →
    (host.move source target).run before = (.ok (), after) → before.move source target = .ok after
  move_error : ∀ {source target : String} {fault : Fault} {before after : Tree},
    (host.move source target).run before = (.error fault, after) → after = before

namespace Tree

variable {operation : Tree → Except Fault Tree} {before after : Tree}

end Tree

/-! ## Making directories -/

/-- Directories may come about, and everything else is as it was. -/
def OnlyMakesDirectories {α : Type} (action : StateM Tree α) : Prop :=
  ∀ before, Tree.OnlyMakes before (action.run before).2

namespace OnlyMakesDirectories

variable {α β : Type}

theorem pure (value : α) : OnlyMakesDirectories (pure value) :=
  fun before => Tree.OnlyChanges.refl _ before

theorem bind {action : StateM Tree α} {next : α → StateM Tree β}
    (haction : OnlyMakesDirectories action) (hnext : ∀ value, OnlyMakesDirectories (next value)) :
    OnlyMakesDirectories (action >>= next) :=
  fun before => (haction before).trans (hnext _ _)

end OnlyMakesDirectories

namespace Host.Faithful

variable {host : Host (StateM Tree)}

theorem onlyMakesDirectories_isDirectory (hhost : host.Faithful) (path : String) :
    OnlyMakesDirectories (host.isDirectory path) := by
  intro before
  rw [hhost.isDirectory]
  exact Tree.OnlyChanges.refl _ before

theorem onlyMakesDirectories_makeDirectory (hhost : host.Faithful) (path : String) :
    OnlyMakesDirectories (host.makeDirectory path) := by
  intro before
  cases hrun : (host.makeDirectory path).run before with
  | mk result after =>
    cases result with
    | ok done => exact Tree.onlyMakes_of_makeDirectory (hhost.makeDirectory_ok hrun)
    | error fault =>
      rw [hhost.makeDirectory_error hrun]
      exact Tree.OnlyChanges.refl _ before

/-- A failure may be settled by a look at what is there. -/
theorem onlyMakesDirectories_look (hhost : host.Faithful) (path : String) (fault : Fault) :
    OnlyMakesDirectories (do
      if ← host.isDirectory path then return Except.ok () else return Except.error fault) := by
  apply OnlyMakesDirectories.bind (hhost.onlyMakesDirectories_isDirectory path)
  intro found
  cases found with
  | true => exact OnlyMakesDirectories.pure _
  | false => exact OnlyMakesDirectories.pure _

theorem settleDirectory (hhost : host.Faithful) (path : String) :
    OnlyMakesDirectories (host.settleDirectory path) := by
  unfold Host.settleDirectory
  apply OnlyMakesDirectories.bind (hhost.onlyMakesDirectories_makeDirectory path)
  intro result
  cases result with
  | ok done => exact OnlyMakesDirectories.pure _
  | error fault => exact hhost.onlyMakesDirectories_look path fault

/-- One directory is made; those above it are made with fewer steps. -/
theorem makeDirectoriesWithin_step (hhost : host.Faithful) {steps : Nat}
    (habove : ∀ n parent, steps = n + 1 →
      OnlyMakesDirectories (host.makeDirectoriesWithin n parent)) (path : String) :
    OnlyMakesDirectories (host.makeDirectoriesWithin steps path) := by
  unfold Host.makeDirectoriesWithin
  split
  · exact OnlyMakesDirectories.pure _
  · apply OnlyMakesDirectories.bind (hhost.onlyMakesDirectories_makeDirectory path)
    intro result
    split
    · exact OnlyMakesDirectories.pure _
    · split
      next n parent _ =>
        apply OnlyMakesDirectories.bind (habove n parent rfl)
        intro above
        cases above with
        | error fault => exact OnlyMakesDirectories.pure _
        | ok done => exact hhost.settleDirectory path
      next => exact OnlyMakesDirectories.pure _
    · exact hhost.onlyMakesDirectories_look path _

theorem makeDirectoriesWithin (hhost : host.Faithful) (steps : Nat) (path : String) :
    OnlyMakesDirectories (host.makeDirectoriesWithin steps path) := by
  induction steps generalizing path with
  | zero =>
    apply hhost.makeDirectoriesWithin_step
    intro n parent hsteps
    cases hsteps
  | succ steps ih =>
    apply hhost.makeDirectoriesWithin_step
    intro n parent hsteps
    obtain rfl := Nat.succ.inj hsteps
    exact ih parent

theorem makeDirectories (hhost : host.Faithful) (path : String) :
    OnlyMakesDirectories (host.makeDirectories path) :=
  hhost.makeDirectoriesWithin path.length path

end Host.Faithful

end ApiToolkit.Files
