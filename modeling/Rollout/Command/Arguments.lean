import Rollout.Command.Option

/-!
# Reading the command line

Arguments are read from left to right.  A known option takes its value from the next argument, from
behind an equals sign, or from behind its letter; letters of options without values may be run
together.  The first unknown option and all that follows it, known options apart, are handed on;
behind two dashes everything is an operand.
-/

namespace Rollout.Command

/-- Why reading stops before the end. -/
inductive Interruption where
  /-- The version is asked for. -/
  | version
  /-- The value of an option is missing. -/
  | missingValue (flag : Flag)
  /-- The value of an option is not allowed. -/
  | badValue (flag : Flag) (value : String)
  deriving DecidableEq

/-- What has been read. -/
structure Reading where
  /-- The options with their values, empty for options that take none. -/
  options : List (Flag × String)
  /-- The operands. -/
  operands : List String
  /-- The first unknown option and what follows it. -/
  unknown : List String
  deriving DecidableEq, Inhabited

namespace Reading

/-- Nothing has been read. -/
def empty : Reading := ⟨[], [], []⟩

/-- Add an option. -/
def addOption (reading : Reading) (flag : Flag) (value : String) : Reading :=
  { reading with options := reading.options ++ [(flag, value)] }

/-- Add an argument that is no known option: once an unknown option has been met, everything else
goes with it. -/
def addOther (reading : Reading) (looksLikeOption : Bool) (argument : String) : Reading :=
  if looksLikeOption || !reading.unknown.isEmpty then
    { reading with unknown := reading.unknown ++ [argument] }
  else { reading with operands := reading.operands ++ [argument] }

/-- Add the arguments behind two dashes, which are handed on with the unknown ones. -/
def addRest (reading : Reading) (arguments : List String) : Reading :=
  if reading.unknown.isEmpty then { reading with operands := reading.operands ++ arguments }
  else { reading with unknown := reading.unknown ++ "--" :: arguments }

end Reading

/-- Whether an argument looks like an option. -/
def looksLikeOption (argument : String) : Bool :=
  match argument.toList with
  | '-' :: _ :: _ => true
  | _ => false

/-- Accept an option with its value. -/
def accept (flag : Flag) (value : String) : Except Interruption Unit :=
  match flag with
  | .version => .error .version
  | .gasLimit =>
      if (Number.positiveInteger? value).isSome then .ok () else .error (.badValue flag value)
  | _ => .ok ()

/-- How an argument that is no option in full gives one. -/
inductive Compound where
  /-- Letters run together: the option of the first, and the argument that remains. -/
  | cluster (flag : Flag) (rest : String)
  /-- An option with its value. -/
  | assigned (flag : Flag) (value : String)

/-- Take an argument apart that starts with the letter of a known option. -/
def cluster? (known : List Flag) (argument : String) : Option Compound :=
  match argument.toList with
  | '-' :: c :: d :: rest =>
      if c = '-' then none
      else
        (known.find? fun flag => flag.letter? == some c).map fun flag =>
          if flag.valueName?.isSome then .assigned flag (String.ofList (d :: rest))
          else .cluster flag (String.ofList ('-' :: d :: rest))
  | _ => none

/-- Take an argument apart that is a known option with an equals sign and a value. -/
def assigned? (known : List Flag) (argument : String) : Option Compound :=
  let letters := argument.toList
  let name := letters.takeWhile (· ≠ '=')
  match letters, letters.dropWhile (· ≠ '=') with
  | '-' :: '-' :: _, _ :: value =>
      (known.find? fun flag =>
          flag.valueName?.isSome && flag.isSpelled (String.ofList name)).map fun flag =>
        .assigned flag (String.ofList value)
  | _, _ => none

/-- Read arguments with the known options; the fuel is at least the number of characters and
arguments. -/
def readWith (known : List Flag) : Nat → Reading → List String → Except Interruption Reading
  | _, reading, [] => .ok reading
  | 0, reading, _ => .ok reading
  | fuel + 1, reading, argument :: rest =>
      if argument = "--" then .ok (reading.addRest rest)
      else
        match known.find? fun flag => flag.isSpelled argument with
        | some flag =>
            if flag.valueName?.isSome then
              match rest with
              | [] => .error (.missingValue flag)
              | value :: rest => do
                  accept flag value
                  readWith known fuel (reading.addOption flag value) rest
            else do
              accept flag ""
              readWith known fuel (reading.addOption flag "") rest
        | none =>
            match (cluster? known argument).or (assigned? known argument) with
            | some (.cluster flag remainder) => do
                accept flag ""
                readWith known fuel (reading.addOption flag "") (remainder :: rest)
            | some (.assigned flag value) => do
                accept flag value
                readWith known fuel (reading.addOption flag value) rest
            | none =>
                readWith known fuel (reading.addOther (looksLikeOption argument) argument) rest

/-- Read arguments with the known options. -/
def read (known : List Flag) (arguments : List String) : Except Interruption Reading :=
  let fuel := arguments.foldl (fun fuel argument => fuel + argument.length + 1) 0
  readWith known fuel .empty arguments

/-- The last value given to an option. -/
def valueOf? (options : List (Flag × String)) (flag : Flag) : Option String :=
  (options.reverse.find? fun entry => entry.1 == flag).map Prod.snd

/-- How often an option is given. -/
def countOf (options : List (Flag × String)) (flag : Flag) : Nat :=
  options.countP fun entry => entry.1 == flag

end Rollout.Command
