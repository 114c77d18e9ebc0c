import ScopeLink.Text.Numeral
import ScopeLink.Usb.Descriptor
/-!
# Command-line arguments

Options come first, then the name of a command, then what the command takes: a query for `ask`,
nothing for the others. An option is given once, with its value in the same argument behind an
equals sign or in the next one, where it must not look like an option; `-v` alone may be repeated,
and changes nothing, for nothing is logged.
The two ids of a device go together, and so do bus and address. Everything after `--` is taken as
it is.
-/

namespace ScopeLink.Command

/-- What the program is asked to do with an instrument: each `Command` but `List`. -/
inductive Task where
  | identify
  | detect
  | state
  | run
  | stop
  | single
  | toggle
  | pulse
  | caps
  | ask (query : String)
deriving DecidableEq, Repr

inductive UsageError where
  | unknownOption (name : String)
  | repeated (name : String)
  | missingValue (name : String)
  | needlessValue (name : String)
  | badValue (name value : String)
  | missingPartner (name partner : String)
  | missingCommand
  | unknownCommand (name : String)
  | missingQuery
  | unexpected (argument : String)
deriving DecidableEq, Repr

def UsageError.message : UsageError → String
  | .unknownOption name => "unknown option " ++ name
  | .repeated name => "option " ++ name ++ " is given twice"
  | .missingValue name => "option " ++ name ++ " needs a value"
  | .needlessValue name => "option " ++ name ++ " takes no value"
  | .badValue name value => "bad value '" ++ value ++ "' for " ++ name
  | .missingPartner name partner => "option " ++ name ++ " needs " ++ partner
  | .missingCommand => "no command given"
  | .unknownCommand name => "unknown command '" ++ name ++ "'"
  | .missingQuery => "no query given"
  | .unexpected argument => "unexpected argument '" ++ argument ++ "'"

/-- The options before a command (`Args`). -/
structure Options where
  emulate : Bool := false
  vendor : Option UInt16 := none
  product : Option UInt16 := none
  bus : Option UInt8 := none
  address : Option UInt8 := none
  timeout : Option Nat := none
  strictTags : Bool := false
deriving DecidableEq, Repr

/-- What the arguments ask for. -/
inductive Request where
  | help
  | list
  | perform (options : Options) (task : Task)
deriving DecidableEq, Repr

/-! ## Single arguments -/

/-- How an argument reads. -/
inductive Argument where
  /-- Two dashes alone. -/
  | escape
  | long (name : List Char) (value : Option (List Char))
  | short (letters : List Char)
  | word
deriving DecidableEq, Repr

def Argument.read : List Char → Argument
  | ['-', '-'] => .escape
  | '-' :: '-' :: rest =>
    match rest.dropWhile (· != '=') with
    | [] => .long rest none
    | _ :: value => .long (rest.takeWhile (· != '=')) (some value)
  | '-' :: letter :: rest => .short (letter :: rest)
  | _ => .word

/-! ## Values -/

/-- The text without the marks of a hexadecimal number before it, however many there are. -/
def dropHexMarks : List Char → List Char
  | '0' :: 'x' :: rest => dropHexMarks rest
  | cs => cs

/-- An id: hexadecimal digits, after any marks, in 16 bits (`parse_hex_u16`). -/
def readId (cs : List Char) : Option UInt16 :=
  ((Text.readNatural 16 (dropHexMarks cs)).filter (· < 65536)).map UInt16.ofNat

/-- A number in eight bits. -/
def readByte (cs : List Char) : Option UInt8 :=
  ((Text.readUnsigned cs).filter (· < 256)).map UInt8.ofNat

/-- A number in 64 bits. -/
def readCount (cs : List Char) : Option Nat :=
  (Text.readNatural 10 cs).filter (· < 18446744073709551616)

/-! ## Options -/

/-- Puts a value into a slot that has to be empty. -/
def fill {α : Type} (name : String) (slot : Option α) (value : List Char)
    (read : List Char → Option α) : Except UsageError (Option α) :=
  match slot, read value with
  | _, none => .error (.badValue name (String.ofList value))
  | some _, _ => .error (.repeated name)
  | none, some a => .ok (some a)

namespace Options

/-- The options with one more that has a value; nothing if no option of that name has one. -/
def withValue (o : Options) (name : String) (value : List Char) :
    Option (Except UsageError Options) :=
  match name with
  | "vid" => some ((fill name o.vendor value readId).map fun v => { o with vendor := v })
  | "pid" => some ((fill name o.product value readId).map fun v => { o with product := v })
  | "bus" => some ((fill name o.bus value readByte).map fun v => { o with bus := v })
  | "address" => some ((fill name o.address value readByte).map fun v => { o with address := v })
  | "timeout-ms" => some ((fill name o.timeout value readCount).map fun v => { o with timeout := v })
  | _ => none

/-- The options with one more that has none; nothing if no option of that name is without. -/
def withFlag (o : Options) (name : String) : Option (Except UsageError Options) :=
  match name with
  | "emulate" =>
    some (if o.emulate then .error (.repeated name) else .ok { o with emulate := true })
  | "strict-tags" =>
    some (if o.strictTags then .error (.repeated name) else .ok { o with strictTags := true })
  | "verbose" => some (.ok o)
  | _ => none

/-- Ids go together, and so do bus and address. -/
def checkPartners (o : Options) : Except UsageError Unit :=
  if o.vendor.isSome && o.product.isNone then .error (.missingPartner "vid" "pid")
  else if o.product.isSome && o.vendor.isNone then .error (.missingPartner "pid" "vid")
  else if o.bus.isSome && o.address.isNone then .error (.missingPartner "bus" "address")
  else if o.address.isSome && o.bus.isNone then .error (.missingPartner "address" "bus")
  else .ok ()

/-- The devices that the options admit. -/
def filter (o : Options) : Usb.Filter :=
  match o.vendor, o.product, o.bus, o.address with
  | some vendor, some product, some bus, some address =>
    .exactly ⟨⟨vendor, product⟩, ⟨bus, address⟩⟩
  | some vendor, some product, _, _ => .withId ⟨vendor, product⟩
  | _, _, some bus, some address => .attachedAt ⟨bus, address⟩
  | _, _, _, _ => .any

end Options

/-- Reads the letters behind one dash: `true` if they are options, `false` where help is asked for. -/
def readLetters : List Char → Except UsageError Bool
  | [] => .ok true
  | 'v' :: rest => readLetters rest
  | 'h' :: _ => .ok false
  | letter :: _ => .error (.unknownOption ("-" ++ letter.toString))

/-! ## Commands -/

/-- A command without arguments of its own, as a request. -/
def plainCommand (o : Options) : String → Option Request
  | "list" => some .list
  | "identify" => some (.perform o .identify)
  | "detect" => some (.perform o .detect)
  | "state" => some (.perform o .state)
  | "run" => some (.perform o .run)
  | "stop" => some (.perform o .stop)
  | "single" => some (.perform o .single)
  | "toggle" => some (.perform o .toggle)
  | "pulse" => some (.perform o .pulse)
  | "caps" => some (.perform o .caps)
  | _ => none

/-- The arguments of a command: at most `room` words, or nothing where help is asked for. -/
def readWords : Nat → List String → Except UsageError (Option (List String))
  | _, [] => .ok (some [])
  | room, arg :: rest =>
    match Argument.read arg.toList with
    | .escape => if rest.length ≤ room then .ok (some rest) else .error (.unexpected arg)
    | .long ['h', 'e', 'l', 'p'] none => .ok none
    | .short ('h' :: _) => .ok none
    | .long .. | .short _ => .error (.unexpected arg)
    | .word =>
      match room with
      | 0 => .error (.unexpected arg)
      | room + 1 => (readWords room rest).map fun words => words.map (arg :: ·)

/-- A command by name, with the arguments behind it. -/
def readCommand (o : Options) (name : String) (rest : List String) : Except UsageError Request :=
  if name = "ask" then do
    match ← readWords 1 rest with
    | none => .ok .help
    | some words =>
      match words with
      | query :: _ =>
        o.checkPartners
        .ok (.perform o (.ask query))
      | [] => .error .missingQuery
  else if name = "help" then
    match rest with
    | [] => .ok .help
    | topic :: _ =>
      if topic = "ask" ∨ topic = "help" ∨ (plainCommand o topic).isSome then .ok .help
      else .error (.unknownCommand topic)
  else match plainCommand o name with
    | none => .error (.unknownCommand name)
    | some request => do
      match ← readWords 0 rest with
      | none => .ok .help
      | some _ =>
        o.checkPartners
        .ok request

/-- Reads the arguments behind the options `o`. -/
def readFrom (o : Options) : List String → Except UsageError Request
  | [] => .error .missingCommand
  | arg :: rest =>
    match Argument.read arg.toList with
    | .escape => .error .missingCommand
    | .word => readCommand o arg rest
    | .short letters =>
      match readLetters letters with
      | .error e => .error e
      | .ok false => .ok .help
      | .ok true => readFrom o rest
    | .long name (some value) =>
      let name := String.ofList name
      match o.withValue name value with
      | some (.ok o) => readFrom o rest
      | some (.error e) => .error e
      | none =>
        if name = "help" ∨ (o.withFlag name).isSome then .error (.needlessValue name)
        else .error (.unknownOption name)
    | .long name none =>
      let name := String.ofList name
      if name = "help" then .ok .help
      else match o.withFlag name with
        | some (.ok o) => readFrom o rest
        | some (.error e) => .error e
        | none =>
          match rest with
          | [] => .error (if (o.withValue name []).isSome then .missingValue name
              else .unknownOption name)
          | value :: rest =>
            match o.withValue name value.toList with
            | none => .error (.unknownOption name)
            | some filled =>
              if Argument.read value.toList ≠ .word then .error (.missingValue name)
              else match filled with
                | .ok o => readFrom o rest
                | .error e => .error e

/-- What the arguments of the program ask for. -/
def read (args : List String) : Except UsageError Request := readFrom {} args

end ScopeLink.Command
