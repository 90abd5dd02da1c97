import MessagePattern.CommandLine.Run

set_option autoImplicit false

open MessagePattern.CommandLine

def main (arguments : List String) : IO UInt32 := do
  let locale <- IO.getEnv "MF_LOCALE"
  let timeZone <- IO.getEnv "MF_TIME_ZONE"
  let surroundings : Surroundings := fun name =>
    match name with
    | "MF_LOCALE" => locale
    | "MF_TIME_ZONE" => timeZone
    | _ => none
  let outcome := MessagePattern.CommandLine.run surroundings arguments
  IO.print outcome.output
  IO.eprint outcome.error
  return UInt32.ofNat outcome.code
