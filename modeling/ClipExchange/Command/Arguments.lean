import ClipExchange.Command.Run

/-!
# Command lines

The first word is the command, further ones are its operands. Every option takes a value, in
the next argument or behind an equals sign, or right behind its letter. After two hyphens
there are no more options.

## Main definitions

* `Token`: a word or an option with its value, with `Token.ofArguments`.
* `Invocation`: what a command line asks for, with `Invocation.ofArguments`.
-/

namespace ClipExchange

/-- An option. -/
inductive CommandOption where
  | config
  | output
  | accept
deriving DecidableEq, Repr

namespace CommandOption

/-- The long name and the letter of each option. -/
def names : List (String × Char × CommandOption) :=
  [("config", 'c', config), ("output", 'o', output), ("accept", 'a', accept)]

/-- The option with a long name. -/
def ofName? (name : String) : Option CommandOption :=
  (names.find? fun entry => entry.1 == name).map fun entry => entry.2.2

/-- The option with a letter. -/
def ofLetter? (letter : Char) : Option CommandOption :=
  (names.find? fun entry => entry.2.1 == letter).map fun entry => entry.2.2

end CommandOption

/-- A part of a command line. -/
inductive Token where
  | word (s : String)
  | option (name : CommandOption) (value : String)
deriving DecidableEq, Repr

namespace Token

/-- What an argument is: a word, or an option whose value may be in the argument. -/
inductive Shape where
  | word
  | endOfOptions
  | option (name : CommandOption) (value : Option String)
  | unknown
deriving DecidableEq, Repr

/-- The shape of an argument that begins with two hyphens. -/
def longShape (body : String) : Shape :=
  let (name, value) := match Text.cutAt? '=' body with
    | some (name, value) => (name, some value)
    | none => (body, none)
  match CommandOption.ofName? name with
  | some name => .option name value
  | none => .unknown

/-- The shape of an argument that begins with a hyphen and a letter. -/
def shortShape (letter : Char) (attached : List Char) : Shape :=
  match CommandOption.ofLetter? letter, attached with
  | none, _ => .unknown
  | some name, [] => .option name none
  | some name, '=' :: value => .option name (some (String.ofList value))
  | some name, value => .option name (some (String.ofList value))

/-- The shape of an argument. -/
def shape (argument : String) : Shape :=
  match argument.toList with
  | ['-', '-'] => .endOfOptions
  | '-' :: '-' :: body => longShape (String.ofList body)
  | '-' :: letter :: attached => shortShape letter attached
  | _ => .word

/-- The parts of a command line. -/
def ofArguments : List String → Except String (List Token)
  | [] => .ok []
  | argument :: rest =>
    match shape argument with
    | .word => (ofArguments rest).map (word argument :: ·)
    | .endOfOptions => .ok (rest.map word)
    | .unknown => .error ("unexpected argument " ++ argument)
    | .option name (some value) => (ofArguments rest).map (option name value :: ·)
    | .option name none =>
      match rest with
      | [] => .error ("a value is required for " ++ argument)
      | value :: rest => (ofArguments rest).map (option name value :: ·)

/-- The words among some parts. -/
def words (tokens : List Token) : List String :=
  tokens.filterMap fun
    | word s => some s
    | _ => none

/-- The values of an option among some parts. -/
def values (name : CommandOption) (tokens : List Token) : List String :=
  tokens.filterMap fun
    | option other value => if other = name then some value else none
    | _ => none

end Token

/-- What a command line asks for. -/
structure Invocation where
  config : Option String
  command : Command
deriving DecidableEq, Repr

namespace Invocation

/-- The only value of an option, if it has one. -/
def atMostOne (name : CommandOption) (tokens : List Token) : Except String (Option String) :=
  match Token.values name tokens with
  | [] => .ok none
  | [value] => .ok (some value)
  | _ => .error "an option was given more than once"

/-- The only value of an option that has to be there. -/
def exactlyOne (name : CommandOption) (tokens : List Token) : Except String String := do
  match ← atMostOne name tokens with
  | some value => return value
  | none => throw "a required option is missing"

/-- The formats in the values of an option, which have commas between them. -/
def acceptedFormats (tokens : List Token) : Option (List Format) :=
  match Token.values .accept tokens with
  | [] => none
  | values => some ((values.flatMap (Text.parts ',')).map Format.ofText)

/-- The command of some words. -/
def commandOf (tokens : List Token) : Except String Command := do
  match Token.words tokens with
  | "pack" :: item :: items => return .pack (← exactlyOne .output tokens) (item :: items)
  | ["inspect", input] => return .inspect input
  | ["select", input] => return .select input (acceptedFormats tokens)
  | ["copy"] => return .copy (← exactlyOne .output tokens)
  | ["paste", input] => return .paste input
  | _ => throw "a command with its operands is required"

/-- What a command line asks for. -/
def ofArguments (arguments : List String) : Except String Invocation := do
  let tokens ← Token.ofArguments arguments
  return ⟨← atMostOne .config tokens, ← commandOf tokens⟩

/-- How to call the program. -/
def usage : String :=
  "Usage: cliprelay [--config PATH] COMMAND\n\n" ++
    "Commands:\n" ++
    "  pack --output PATH ITEM...        build a transaction from FORMAT=VALUE items\n" ++
    "  inspect PATH                      print every transaction in a frame file\n" ++
    "  select [--accept FORMATS] PATH    show which item a consumer would apply\n" ++
    "  copy --output PATH                read the system clipboard into a frame file\n" ++
    "  paste PATH                        apply a frame file to the system clipboard\n"

end Invocation

namespace Command

/-- The path of the file that an item takes its value from. -/
def itemPath? (item : String) : Option String := do
  let (_, value) ← Text.cutAt? '=' item
  match value.toList with
  | '@' :: path => some (String.ofList path)
  | _ => none

/-- The path of the file that a command writes. -/
def writtenPath? : Command → Option String
  | pack output _ | copy output => some output
  | _ => none

/-- The paths of the files that a command reads, or has to know of. -/
def paths : Command → List String
  | pack output items => output :: (Files.parent? output).toList ++ items.filterMap itemPath?
  | copy output => output :: (Files.parent? output).toList
  | inspect input | select input _ | paste input => [input]

end Command

end ClipExchange
