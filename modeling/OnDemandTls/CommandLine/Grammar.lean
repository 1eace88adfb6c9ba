import OnDemandTls.Catalog

namespace OnDemandTls

/-!
# Command lines

A command line names a command by one word after another and sets options
anywhere between them.  Options are the same for all commands; one that is set
again behind a further word of the command counts in place of the first.
-/

/-- What the values of an option are. -/
inductive OptionKind where
  /-- The option has no value. -/
  | flag
  | text
  /-- A text that is not empty. -/
  | path
  /-- A number of 16 bits. -/
  | port
  | truth
  deriving DecidableEq, Repr

/-- An option. -/
structure CommandOption where
  name : String
  short : Option Char := none
  kind : OptionKind
  /-- The variable of the environment that stands in for the option. -/
  standIn : Option String := none
  deriving DecidableEq, Repr

/-- What ends the reading of a command line. -/
inductive CommandLineStop where
  | unknownOption (name : String)
  | repeatedOption (name : String)
  | missingValue (name : String)
  | unwantedValue (name : String)
  | badValue (name : String)
  | unexpectedWord (word : String)
  | missingWord
  | helpWanted
  | versionWanted
  deriving DecidableEq, Repr

namespace CommandLineStop

/-- What is said about the end. -/
def message : CommandLineStop → String
  | unknownOption name => "unknown option " ++ name
  | repeatedOption name => "option --" ++ name ++ " is given twice"
  | missingValue name => "option --" ++ name ++ " needs a value"
  | unwantedValue name => "option --" ++ name ++ " takes no value"
  | badValue name => "bad value for option --" ++ name
  | unexpectedWord word => "unexpected word " ++ word
  | missingWord => "a command is missing"
  | helpWanted => ""
  | versionWanted => ""

end CommandLineStop

/-- The options that are set, with their values. -/
abbrev OptionValues := Catalog String

namespace OptionKind

/-- The sign of a number in a text, and the digits after it. -/
def splitSign : List Char → Bool × List Char
  | '+' :: digits => (false, digits)
  | '-' :: digits => (true, digits)
  | digits => (false, digits)

/-- The number that digits write. -/
def number (digits : List Char) : Nat :=
  digits.foldl (fun n c => 10 * n + (c.toNat - '0'.toNat)) 0

/-- The port that a text writes; a sign may come first, but no port is below
zero. -/
def port? (text : String) : Option UInt16 :=
  let (negative, digits) := splitSign text.toList
  if digits = [] ∨ !digits.all Char.isDigit then
    none
  else if negative ∧ number digits ≠ 0 then
    none
  else if number digits < 0x10000 then
    some (UInt16.ofNat (number digits))
  else
    none

/-- The truth value that a text writes. -/
def truth? : String → Option Bool
  | "true" => some true
  | "false" => some false
  | _ => none

/-- Whether a text is a value of a kind. -/
def accepts
    (kind : OptionKind)
    (text : String) :
    Bool :=
  match kind with
  | .flag => true
  | .text => true
  | .path => text ≠ ""
  | .port => (port? text).isSome
  | .truth => (truth? text).isSome

end OptionKind

namespace OptionValues

/-- Set an option that is not set. -/
def set
    (values : OptionValues)
    (option : CommandOption)
    (text : String) :
    Except CommandLineStop OptionValues :=
  if values.contains option.name then
    .error (.repeatedOption option.name)
  else if option.kind.accepts text then
    .ok (values.insert option.name text)
  else
    .error (.badValue option.name)

/-- Set options from the environment that are not set. -/
def fill
    (options : List CommandOption)
    (environment : String → Option String)
    (values : OptionValues) :
    Except CommandLineStop OptionValues :=
  options.foldlM
    (fun values option =>
      match option.standIn.bind environment with
      | none => .ok values
      | some text => if values.contains option.name then .ok values else values.set option text)
    values

/-- Options that are set, where later ones count. -/
def overriding
    (later earlier : OptionValues) :
    OptionValues :=
  later.toList.foldl (fun values (name, text) => values.insert name text) earlier

end OptionValues

/-- What an argument is. -/
inductive ArgumentForm where
  /-- From here on all arguments are words. -/
  | wordsOnly
  /-- The long name of an option, with a value if one is attached. -/
  | long (name : String) (value : Option String)
  /-- The short names of options, with what follows them. -/
  | short (letters : List Char)
  | word
  deriving DecidableEq, Repr

namespace ArgumentForm

/-- The form of an argument. -/
def ofArgument (argument : String) : ArgumentForm :=
  match argument.toList with
  | ['-', '-'] => .wordsOnly
  | '-' :: '-' :: rest =>
      let name := String.ofList (rest.takeWhile (· != '='))
      match rest.dropWhile (· != '=') with
      | [] => .long name none
      | _ :: value => .long name (some (String.ofList value))
  | '-' :: letter :: rest => .short (letter :: rest)
  | _ => .word

/-- Whether an argument can be the value of the option before it. -/
def canBeValue (argument : String) : Bool :=
  ofArgument argument = .word

end ArgumentForm

/-- What the reading of one argument leads to. -/
inductive ArgumentEffect where
  | set (values : OptionValues)
  /-- The next argument is the value of an option. -/
  | awaitValue (values : OptionValues) (option : CommandOption)

/-- What may stand where a word is read. -/
inductive WordPolicy where
  /-- One of some words, after which the reading goes on differently. -/
  | choice (words : List String)
  /-- Any number of words, one at least. -/
  | some
  /-- No word. -/
  | none
  deriving DecidableEq, Repr

/-- What one stretch of a command line says. -/
structure CommandStretch where
  values : OptionValues
  words : List String
  /-- The arguments after a chosen word. -/
  rest : List String

namespace CommandStretch

/-- What a long name leads to. -/
def readLong
    (options : List CommandOption)
    (hasVersion : Bool)
    (values : OptionValues)
    (name : String)
    (value : Option String) :
    Except CommandLineStop ArgumentEffect :=
  if name = "help" ∧ value = Option.none then
    .error .helpWanted
  else if name = "version" ∧ hasVersion ∧ value = Option.none then
    .error .versionWanted
  else
    match options.find? (fun option => option.name == name), value with
    | Option.none, _ => .error (.unknownOption name)
    | Option.some ⟨name, _, .flag, _⟩, Option.some _ => .error (.unwantedValue name)
    | Option.some ⟨name, short, .flag, standIn⟩, Option.none =>
        (values.set ⟨name, short, .flag, standIn⟩ "true").map .set
    | Option.some option, Option.some text => (values.set option text).map .set
    | Option.some option, Option.none => .ok (.awaitValue values option)

/-- What short names lead to: the value of an option is what follows its name,
or the next argument. -/
def readShort
    (options : List CommandOption)
    (hasVersion : Bool) :
    OptionValues → List Char → Except CommandLineStop ArgumentEffect
  | values, [] => .ok (.set values)
  | values, letter :: rest =>
      if letter = 'h' then
        .error .helpWanted
      else if letter = 'V' ∧ hasVersion then
        .error .versionWanted
      else
        match options.find? (fun option => option.short == Option.some letter) with
        | Option.none => .error (.unknownOption (String.ofList [letter]))
        | Option.some option =>
            if option.kind = .flag then
              match values.set option "true" with
              | .error stop => .error stop
              | .ok values => readShort options hasVersion values rest
            else
              match rest with
              | [] => .ok (.awaitValue values option)
              | '=' :: value => (values.set option (String.ofList value)).map .set
              | value => (values.set option (String.ofList value)).map .set

/-- Read arguments up to a chosen word or to the end. -/
def read
    (options : List CommandOption)
    (hasVersion : Bool)
    (policy : WordPolicy) :
    List String → OptionValues → List String → Except CommandLineStop CommandStretch
  | [], values, words =>
      match policy, words with
      | .none, _ => .ok ⟨values, words, []⟩
      | _, [] => .error .missingWord
      | _, _ => .ok ⟨values, words, []⟩
  | argument :: rest, values, words =>
      match ArgumentForm.ofArgument argument with
      | .wordsOnly =>
          match policy, rest, words ++ rest with
          | .some, _, word :: more => .ok ⟨values, word :: more, []⟩
          | .none, [], _ => .ok ⟨values, words, []⟩
          | _, word :: _, _ => .error (.unexpectedWord word)
          | _, [], _ => .error .missingWord
      | .word =>
          match policy with
          | .some => read options hasVersion policy rest values (words ++ [argument])
          | .none => .error (.unexpectedWord argument)
          | .choice known =>
              if argument = "help" then
                .error .helpWanted
              else if known.contains argument then
                .ok ⟨values, [argument], rest⟩
              else
                .error (.unexpectedWord argument)
      | .long name value =>
          match readLong options hasVersion values name value with
          | .error stop => .error stop
          | .ok (.set values) => read options hasVersion policy rest values words
          | .ok (.awaitValue values option) => readValue option rest values words
      | .short letters =>
          match readShort options hasVersion values letters with
          | .error stop => .error stop
          | .ok (.set values) => read options hasVersion policy rest values words
          | .ok (.awaitValue values option) => readValue option rest values words
where
  /-- Read the value of an option, and go on. -/
  readValue
      (option : CommandOption) :
      List String → OptionValues → List String → Except CommandLineStop CommandStretch
    | [], _, _ => .error (.missingValue option.name)
    | value :: rest, values, words =>
        if ArgumentForm.canBeValue value then
          match values.set option value with
          | .error stop => .error stop
          | .ok values => read options hasVersion policy rest values words
        else
          .error (.missingValue option.name)

end CommandStretch

end OnDemandTls
