import Floorplan.Command.Plan

set_option autoImplicit false

namespace Floorplan.Command

def reason : IO.Error → String
  | .noFileOrDirectory _ code details => s!"{details} (os error {code})"
  | .permissionDenied _ code details => s!"{details} (os error {code})"
  | .inappropriateType _ code details => s!"{details} (os error {code})"
  | error => toString error

def report (chain : Chain) : IO UInt32 := do
  match chain with
  | [] => pure ()
  | message :: causes =>
    IO.eprintln s!"Error: {message}"
    unless causes.isEmpty do
      IO.eprintln "\nCaused by:"
      for cause in causes do
        IO.eprintln s!"    {cause}"
  pure 1

def readOptions (flags : Flags) : IO Files := do
  match flags.config with
  | none => pure fun _ => .error ""
  | some path =>
    match ← (IO.FS.readFile path).toBaseIO with
    | .ok text => pure fun _ => .ok text
    | .error error => pure fun _ => .error (reason error)

def run (flags : Flags) : IO UInt32 := do
  let files ← readOptions flags
  let seed ← IO.rand 0 ((1 <<< 63) - 1)
  match plan flags files (UInt64.ofNat seed) with
  | none => do
    IO.eprintln "generation broke off: the map has too many cells"
    pure 101
  | some (.error chain) => report chain
  | some (.ok plan) =>
    match ← (IO.FS.writeFile plan.output plan.document).toBaseIO with
    | .error error => report (writeFailure plan.output (reason error))
    | .ok () =>
      match plan.printed with
      | none => pure 0
      | some text =>
        IO.print text
        pure 0

end Floorplan.Command

def main (arguments : List String) : IO UInt32 :=
  match Floorplan.Command.Flags.ofArguments? arguments with
  | none => do
    IO.eprintln "error: invalid arguments"
    pure 2
  | some flags => Floorplan.Command.run flags
