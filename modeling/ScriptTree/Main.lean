import ScriptTree.Command.Run

/-!
# The command line

The program on real files.
-/

set_option autoImplicit false

namespace ScriptTree.Command

/-- The number and the text of an error that the system reports. -/
def systemError? : IO.Error → Option (Nat × String)
  | .noFileOrDirectory _ code details | .inappropriateType _ code details
  | .invalidArgument _ code details | .permissionDenied _ code details
  | .alreadyExists _ code details | .resourceExhausted _ code details
  | .resourceVanished code details | .otherError code details => some (code.toNat, details)
  | _ => none

/-- The number of an error; the system may report it as a negative word of 32 bits. -/
def errorNumber (code : Nat) : Nat :=
  if code < Nat.pow 2 31 then code else Nat.pow 2 32 - code

/-- The fault that the system reports. -/
def fileFault (e : IO.Error) : FileFault :=
  match systemError? e with
  | none => .other (toString e)
  | some (code, details) =>
    match errorNumber code with
    | 2 => .notFound
    | 20 => .notDirectory
    | 21 => .isDirectory
    | 36 => .nameTooLong
    | number => .other s!"{details} (os error {number})"

/-- The result of an operation on real files. -/
def attempt {α : Type} (operation : IO α) : IO (Except FileFault α) := do
  try return .ok (← operation)
  catch e => return .error (fileFault e)

instance : MonadFiles IO where
  read path := attempt (IO.FS.readBinFile path)
  write path bytes := attempt (IO.FS.writeBinFile path bytes)

end ScriptTree.Command

/-- Runs the program on the arguments of the command line. -/
def main (args : List String) : IO UInt32 := do
  let outcome ← ScriptTree.Command.run args
  IO.print outcome.stdout
  IO.eprint outcome.stderr
  return outcome.code.toUInt32
