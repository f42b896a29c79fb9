import StyleImport.Text.Quoted
import StyleImport.Text.Utf8

/-!
# Access faults

Why an operation on a path fails. The system refuses it, or the path cannot be handed to the
system at all because it holds a null character or a code point without bytes.

A path may hold the surrogates that stand for single bytes which are no text; these have bytes.

## Main definitions

- `SystemFault`: the reasons that the system gives, with their numbers and words.
- `AccessFault`: why an operation on a path fails.
- `Utf8.EncodeFault.message`: the wording for code points without bytes.
-/

namespace StyleImport

/-- A reason for which the system refuses an operation. -/
inductive SystemFault
  /-- Nothing stands there. -/
  | notFound
  /-- The place is in use. -/
  | busy
  /-- Something stands there already. -/
  | occupied
  /-- A directory is needed and something else stands there. -/
  | notDirectory
  /-- A directory stands there. -/
  | isDirectory
  /-- The path makes no sense for the operation. -/
  | invalid
  /-- The path or a name on it is too long. -/
  | nameTooLong
  /-- The directory is not empty. -/
  | notEmpty
  /-- Too many symbolic links have to be followed. -/
  | tooManyLinks
deriving DecidableEq

namespace SystemFault

/-- The number of a reason. -/
def number : SystemFault → Nat
  | notFound => 2
  | busy => 16
  | occupied => 17
  | notDirectory => 20
  | isDirectory => 21
  | invalid => 22
  | nameTooLong => 36
  | notEmpty => 39
  | tooManyLinks => 40

/-- The words of a reason. -/
def words : SystemFault → Text
  | notFound => "No such file or directory"
  | busy => "Device or resource busy"
  | occupied => "File exists"
  | notDirectory => "Not a directory"
  | isDirectory => "Is a directory"
  | invalid => "Invalid argument"
  | nameTooLong => "File name too long"
  | notEmpty => "Directory not empty"
  | tooManyLinks => "Too many levels of symbolic links"

end SystemFault

/-- The wording for code points that have no bytes. -/
def Utf8.EncodeFault.message (f : EncodeFault) : Text :=
  (match f.run with
    | [c] => "'utf-8' codec can't encode character '" ++ c.numericEscape ++ "' in position "
        ++ Text.ofNat f.start
    | run => "'utf-8' codec can't encode characters in position " ++ Text.ofNat f.start ++ "-"
        ++ Text.ofNat (f.start + run.length - 1))
    ++ ": surrogates not allowed"

/-- Two hexadecimal digits of a byte. -/
def Utf8.byteDigits (b : UInt8) : Text := Text.ofNatHex 2 b.toNat

/-- The words of a kind of fault among bytes. -/
def Utf8.FaultKind.words : Utf8.FaultKind → Text
  | badStart => "invalid start byte"
  | badContinuation => "invalid continuation byte"
  | truncated => "unexpected end of data"

/-- The wording for bytes that are no text. -/
def Utf8.DecodeFault.message (f : DecodeFault) : Text :=
  (if f.length = 1 then
    "'utf-8' codec can't decode byte 0x" ++ byteDigits f.byte
      ++ " in position " ++ Text.ofNat f.start
  else
    "'utf-8' codec can't decode bytes in position " ++ Text.ofNat f.start ++ "-"
      ++ Text.ofNat (f.start + f.length - 1))
    ++ ": " ++ f.kind.words

/-- Why an operation on a path fails. -/
inductive AccessFault
  /-- The system refuses it. -/
  | system (fault : SystemFault) (path : Text)
  /-- The system refuses to list the place as a directory. -/
  | listing (path : Text)
  /-- The working directory has been removed. -/
  | noWorkingDirectory
  /-- A tree is to be removed whose top is a symbolic link. -/
  | linkTree
  /-- The path holds a null character. -/
  | nullCharacter
  /-- The path holds code points without bytes. -/
  | unencodable (fault : Utf8.EncodeFault)
deriving DecidableEq

namespace AccessFault

/-- The reason that the system gives, if it is the system that refuses the operation. -/
def system? : AccessFault → Option SystemFault
  | system f _ => some f
  | listing _ => some .notDirectory
  | noWorkingDirectory => some .notFound
  | _ => none

/-- Tells whether a fault concerns the path itself and not the tree. -/
def isUnspeakable : AccessFault → Bool
  | nullCharacter => true
  | unencodable _ => true
  | _ => false

/-- A reason with its number. -/
def numbered (f : SystemFault) : Text :=
  "[Errno " ++ Text.ofNat f.number ++ "] " ++ f.words

/-- The wording of a fault. -/
def message : AccessFault → Text
  | system f path => numbered f ++ ": " ++ path.quoted
  | listing path => numbered .notDirectory ++ ": PosixPath(" ++ path.quoted ++ ")"
  | noWorkingDirectory => numbered .notFound
  | linkTree => "Cannot call rmtree on a symbolic link"
  | nullCharacter => "embedded null byte"
  | unencodable f => f.message

end AccessFault

end StyleImport
