/-!
# The arguments of the command

    html-to-textile [--output FILE] [--ignore TAG]... [--keep-source-whitespace] [--no-trim] [INPUT]

Arguments are taken one by one from the left, and the first fault ends the reading, as do requests
for help and for the version. An option may have its value attached or give it as the next argument;
what starts with a hyphen is no such value, a hyphen alone is. After two hyphens no more options are
taken.
-/

namespace Textile.Command

/-- What a command line asks to convert, and how. -/
structure Request where
  /-- The file to read. -/
  input? : Option String := none
  /-- The file to write. -/
  output? : Option String := none
  /-- The names of the elements to leave out. -/
  ignored : List String := []
  /-- Whether the layout of the source is kept. -/
  keepsLayout : Bool := false
  /-- Whether white space at the ends of the result is kept. -/
  keepsEnds : Bool := false
  deriving Repr, DecidableEq

/-- What a command line asks for. -/
inductive Invocation
  | convert (request : Request)
  | help
  | version
  deriving Repr, DecidableEq

/-- A fault of a command line. -/
inductive UsageError
  | unknownArgument (text : String)
  | missingValue (name : String)
  | emptyValue (name : String)
  | needlessValue (name : String)
  | repeated (name : String)
  deriving Repr, DecidableEq

/-- The message about a fault. -/
def UsageError.message : UsageError → String
  | unknownArgument text => "unexpected argument '" ++ text ++ "' found"
  | missingValue name => "a value is required for '" ++ name ++ "' but none was supplied"
  | emptyValue name => "a value is required for '" ++ name ++ "' but it is empty"
  | needlessValue name => "unexpected value for '" ++ name ++ "' found; no more were expected"
  | repeated name => "the argument '" ++ name ++ "' cannot be used multiple times"

/-! ## Single arguments -/

/-- The shapes of an argument. -/
inductive Argument
  /-- The two hyphens that end the options. -/
  | separator
  /-- Two hyphens and a name, perhaps with an equals sign and a value. -/
  | long (name : String) (value? : Option String)
  /-- A hyphen and a letter, perhaps with more characters. -/
  | short (letter : Char) (others : List Char)
  | plain (text : String)
  deriving Repr, DecidableEq

/-- The shape of an argument. -/
def Argument.ofString (text : String) : Argument :=
  match text.toList with
  | ['-', '-'] => separator
  | '-' :: '-' :: cs =>
    let name := String.ofList (cs.takeWhile (· ≠ '='))
    match cs.dropWhile (· ≠ '=') with
    | [] => long name none
    | _ :: value => long name (some (String.ofList value))
  | '-' :: letter :: others => short letter others
  | _ => plain text

/-- The options that take a value. -/
inductive ValueOption
  | output
  | ignore
  deriving Repr, DecidableEq

/-- The name of an option as it is given. -/
def ValueOption.label : ValueOption → String
  | output => "--output <FILE>"
  | ignore => "--ignore <TAG>"

namespace Request

/-- Takes the file to read, which is given once at most. -/
def setInput (request : Request) (path : String) : Except UsageError Request :=
  if request.input?.isSome then .error (.unknownArgument path)
  else if path.isEmpty then .error (.emptyValue "[INPUT]")
  else .ok { request with input? := some path }

/-- Takes the value of an option. -/
def setValue (request : Request) (option : ValueOption) (value : String) :
    Except UsageError Request :=
  match option with
  | .ignore => .ok { request with ignored := request.ignored ++ [value] }
  | .output =>
    if value.isEmpty then .error (.emptyValue option.label)
    else if request.output?.isSome then .error (.repeated option.label)
    else .ok { request with output? := some value }

/-- Takes the flag that keeps the layout of the source. -/
def setKeepsLayout (request : Request) : Except UsageError Request :=
  if request.keepsLayout then .error (.repeated "--keep-source-whitespace")
  else .ok { request with keepsLayout := true }

/-- Takes the flag that keeps white space at the ends of the result. -/
def setKeepsEnds (request : Request) : Except UsageError Request :=
  if request.keepsEnds then .error (.repeated "--no-trim")
  else .ok { request with keepsEnds := true }

end Request

/-! ## Command lines -/

namespace Invocation

/-- Reads the arguments after those that a request was made of, where an option may be waiting for
its value. -/
def ofArgumentsAfter (request : Request) (waiting? : Option ValueOption) :
    List String → Except UsageError Invocation
  | [] =>
    match waiting? with
    | none => .ok (.convert request)
    | some option => .error (.missingValue option.label)
  | text :: rest =>
    let continued (next : Except UsageError Request) : Except UsageError Invocation :=
      next.bind fun request => ofArgumentsAfter request none rest
    match waiting?, Argument.ofString text with
    | some option, .plain value => continued (request.setValue option value)
    | some option, _ => .error (.missingValue option.label)
    | none, .plain path => continued (request.setInput path)
    | none, .separator => (rest.foldlM Request.setInput request).map .convert
    | none, .short 'h' _ => .ok .help
    | none, .short 'V' _ => .ok .version
    | none, .short 'o' [] => ofArgumentsAfter request (some .output) rest
    | none, .short 'o' ('=' :: value) => continued (request.setValue .output (String.ofList value))
    | none, .short 'o' value => continued (request.setValue .output (String.ofList value))
    | none, .long "output" none => ofArgumentsAfter request (some .output) rest
    | none, .long "output" (some value) => continued (request.setValue .output value)
    | none, .long "ignore" none => ofArgumentsAfter request (some .ignore) rest
    | none, .long "ignore" (some value) => continued (request.setValue .ignore value)
    | none, .long "keep-source-whitespace" none => continued request.setKeepsLayout
    | none, .long "no-trim" none => continued request.setKeepsEnds
    | none, .long "help" none => .ok .help
    | none, .long "version" none => .ok .version
    | none, .long name (some _) =>
      if ["keep-source-whitespace", "no-trim", "help", "version"].contains name then
        .error (.needlessValue ("--" ++ name))
      else
        .error (.unknownArgument text)
    | none, .long _ none => .error (.unknownArgument text)
    | none, .short _ _ => .error (.unknownArgument text)

/-- What the arguments of a command line ask for. -/
def ofArguments (arguments : List String) : Except UsageError Invocation :=
  ofArgumentsAfter {} none arguments

end Invocation

end Textile.Command
