import StyleImport.Disk

/-!
# Two states of the disk

What has to be removed from one state of the disk, and what has to be made or written, to come to
another one.

## Main definitions

- `Disk.goneSince`: what is to be removed.
- `Disk.newSince`: what is to be made or written.
-/

namespace StyleImport

namespace Disk

/-- What stood at a place before and is no longer there, or no longer a thing of its kind. What
lies deeper comes first. -/
def goneSince (old new : Disk) : List (Location × Entry) :=
  let kept (e : Location × Entry) : Bool :=
    match e.2, new.entry? e.1 with
    | .file _, some (.file _) => true
    | _, now => now = some e.2
  (old.entries.filter fun e => !kept e).mergeSort fun a b => b.1.length ≤ a.1.length

/-- What stands at a place now and did not stand there before. What lies deeper comes last. -/
def newSince (old new : Disk) : List (Location × Entry) :=
  (new.entries.filter fun e => old.entry? e.1 ≠ some e.2).mergeSort fun a b =>
    a.1.length ≤ b.1.length

end Disk

end StyleImport
