/-
This file embeds `cmdline_parser.h` and `cmdline_parser.cpp`.
-/

import Mathlib.Tactic

namespace Vtb

structure CmdlineArgumentFormat where
  longName : String
  shortName : String
  description : String
  required : Bool
  found : Bool
  value : String
deriving DecidableEq

structure CmdlineParser where
  arguments : List CmdlineArgumentFormat
deriving DecidableEq

/-- The test `token == arg.long_name || token == arg.short_name` of both scans. -/
def CmdlineArgumentFormat.named (arg : CmdlineArgumentFormat) (token : String) : Bool :=
  token == arg.longName || token == arg.shortName

/-- The look-ahead test is `argv[i + 1][0] == '-'`; an empty token starts with NUL. -/
def beginsWithDash (token : String) : Bool :=
  token.toList.head? == some '-'

/-- A text under `std::setw` and `std::left`, which count its bytes. A longer text is not cut. -/
def padRight (width : Nat) (text : String) : String := text.pushn ' ' (width - text.utf8ByteSize)

namespace CmdlineParser

def empty : CmdlineParser := ⟨[]⟩

def addArgument (parser : CmdlineParser) (longN shortN desc : String) (req : Bool)
    (defaultV : String) : CmdlineParser :=
  ⟨parser.arguments ++ [⟨longN, shortN, desc, req, false, defaultV⟩]⟩

/-- The tokens after the first `--` of the list, when there is one. -/
def afterSeparator : List String → Option (List String)
  | [] => none
  | token :: rest => if token = "--" then some rest else afterSeparator rest

def missingSeparator : String :=
  "Invalid Command Line: DPDK separator '--' is missing.\n" ++
    "Proper Usage: [EAL options] -- [APP options]"

def missingValue (token : String) : String := "Argument " ++ token ++ " requires a value."

def unknownArgument (token : String) : String := "Unknown argument '" ++ token ++ "'"

def requiredMissing (arg : CmdlineArgumentFormat) : String :=
  "Required argument missing: " ++ arg.longName

/-- The inner loop updates the first argument that has the token as a name.
The flag of the result says that the next token was taken as its value. -/
def matchToken (token : String) (next : Option String) :
    List CmdlineArgumentFormat → Except String (Option (List CmdlineArgumentFormat × Bool))
  | [] => .ok none
  | arg :: rest =>
      if arg.named token then
        match next.filter fun value => !beginsWithDash value with
        | some value => .ok (some ({ arg with found := true, value := value } :: rest, true))
        | none =>
            if arg.required && arg.value.isEmpty then .error (missingValue token)
            else .ok (some ({ arg with found := true } :: rest, false))
      else
        (matchToken token next rest).map (Option.map fun result => (arg :: result.1, result.2))

/-- The outer loop reads the application tokens from left to right. -/
def parseTokens (arguments : List CmdlineArgumentFormat) :
    List String → Except String (List CmdlineArgumentFormat)
  | [] => .ok arguments
  | token :: rest =>
      match matchToken token rest.head? arguments with
      | .error message => .error message
      | .ok none => .error (unknownArgument token)
      | .ok (some (updated, false)) => parseTokens updated rest
      | .ok (some (updated, true)) =>
          match rest with
          | [] => .ok updated
          | _ :: remaining => parseTokens updated remaining

/-- The final pass rejects the first required argument that no token named. -/
def checkRequired : List CmdlineArgumentFormat → Except String Unit
  | [] => .ok ()
  | arg :: rest =>
      if arg.required && !arg.found then .error (requiredMissing arg) else checkRequired rest

/-- `parse` throws the texts above; its first argument is the whole `argv`. -/
def parse (argv : List String) (parser : CmdlineParser) : Except String CmdlineParser :=
  match afterSeparator argv.tail with
  | none =>
      if 1 < argv.length then .error missingSeparator
      else (checkRequired parser.arguments).map fun _ => parser
  | some tokens =>
      match parseTokens parser.arguments tokens with
      | .error message => .error message
      | .ok arguments => (checkRequired arguments).map fun _ => ⟨arguments⟩

/-- `get<std::string>` returns the empty string for an unknown name. -/
def get (parser : CmdlineParser) (name : String) : String :=
  match parser.arguments.find? fun arg => arg.named name with
  | some arg => arg.value
  | none => ""

/-- `std::isspace` in the C locale. -/
def isSpace (c : Char) : Bool := c == ' ' || (9 ≤ c.toNat && c.toNat ≤ 13)

/-- The text behind the white space and one sign; the flag says that the sign is a minus. -/
def afterSign (text : List Char) : Bool × List Char :=
  match text.dropWhile isSpace with
  | [] => (false, [])
  | c :: rest => if c = '-' then (true, rest) else if c = '+' then (false, rest) else (false, c :: rest)

/-- `std::stoi` reads the digits behind the sign and ignores the rest. -/
def signedDigits (text : List Char) : Bool × List Char :=
  let (negative, unsigned) := afterSign text
  (negative, unsigned.takeWhile Char.isDigit)

/-- A text without digits and a value outside `int` are exceptions with the text of the function name. -/
def stoi (text : String) : Except String Int :=
  let (negative, digits) := signedDigits text.toList
  let magnitude : Int := Nat.ofDigitChars 10 digits 0
  let value := if negative then -magnitude else magnitude
  if digits = [] ∨ value < -2 ^ 31 ∨ 2 ^ 31 ≤ value then .error "stoi"
  else .ok value

/-- `get<int>` -/
def getInt (parser : CmdlineParser) (name : String) : Except String Int :=
  if (parser.get name).isEmpty then .ok 0 else stoi (parser.get name)

/-- `get<bool>` -/
def getBool (parser : CmdlineParser) (name : String) : Bool :=
  ["true", "1", "yes", "-h", "--help"].contains (parser.get name)

/-- The row of one argument in `print_usage`. -/
def usageRow (arg : CmdlineArgumentFormat) : String :=
  padRight 25 arg.longName ++ padRight 10 arg.shortName ++ padRight 55 arg.description ++
    (if arg.required then "Yes" else "No") ++ "\n"

/-- `print_usage` writes this text to the console. -/
def printUsage (parser : CmdlineParser) : String :=
  "\nUsage: ./app [EAL options] -- [APP options]\n\n" ++
    padRight 25 "Long Flag" ++ padRight 10 "Short" ++ padRight 55 "Description" ++ "Required\n" ++
    "".pushn '-' 100 ++ "\n" ++ String.join (parser.arguments.map usageRow) ++ "\n"

end CmdlineParser

end Vtb
