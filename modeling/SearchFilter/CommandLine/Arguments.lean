import SearchFilter.Text.Digits
import SearchFilter.Value

/-!
# Arguments

The arguments of the command line, looked at from left to right. An argument that begins with a
hyphen is a cluster of short options or one long option, and two hyphens alone make the rest
operands. The first argument that does not fit decides, as does a request for help or the version.
-/

namespace SearchFilter.CommandLine

/-! ## What may be asked for -/

/-- How found rows are shown. -/
inductive Format where
  | table
  | json
deriving DecidableEq, Repr

/-- A filter and the order of its rows. -/
structure FilterArguments where
  filter : String
  sort : Option String
  descending : Bool
deriving DecidableEq, Repr

/-- The arguments of a search. -/
structure SearchArguments where
  filter : FilterArguments
  limit : Int64
  offset : Int64
  dryRun : Bool
  format : Format
  databaseUrl : Option String
  config : Option String
deriving DecidableEq, Repr

/-- What is asked for. -/
inductive Request where
  | search (a : SearchArguments)
  | explain (a : FilterArguments)
  | columns
  | help
  | version
  /-- The arguments do not fit. -/
  | misuse
deriving DecidableEq, Repr

/-! ## Options -/

/-- An option. -/
inductive Switch where
  | verbose
  | help
  | version
  | sort
  | desc
  | limit
  | offset
  | dryRun
  | format
  | databaseUrl
  | config
deriving DecidableEq, Repr

namespace Switch

def long : Switch → String
  | .verbose => "verbose"
  | .help => "help"
  | .version => "version"
  | .sort => "sort"
  | .desc => "desc"
  | .limit => "limit"
  | .offset => "offset"
  | .dryRun => "dry-run"
  | .format => "format"
  | .databaseUrl => "database-url"
  | .config => "config"

def short? : Switch → Option Char
  | .verbose => some 'v'
  | .help => some 'h'
  | .version => some 'V'
  | .sort => some 's'
  | .limit => some 'l'
  | .offset => some 'o'
  | .dryRun => some 'd'
  | .format => some 'f'
  | .desc | .databaseUrl | .config => none

/-- The option is followed by a value. -/
def takesValue : Switch → Bool
  | .sort | .limit | .offset | .format | .databaseUrl | .config => true
  | .verbose | .help | .version | .desc | .dryRun => false

/-- An integer of 64 bits. -/
def readInt? (value : String) : Option Int64 :=
  (Text.readInteger? value.toList).bind Value.int64?

def readFormat? (value : String) : Option Format :=
  if value = "table" then some .table else if value = "json" then some .json else none

/-- The option can have this value. -/
def accepts (s : Switch) (value : String) : Bool :=
  match s with
  | .limit | .offset => (readInt? value).isSome
  | .format => (readFormat? value).isSome
  | .config => value != ""
  | _ => true

end Switch

/-- A part of the command line with options of its own. -/
inductive Level where
  | top
  | search
  | explain
  | columns
deriving DecidableEq, Repr

namespace Level

def switches : Level → List Switch
  | .top => [.verbose, .help, .version]
  | .search => [.sort, .desc, .limit, .offset, .dryRun, .format, .databaseUrl, .config, .verbose,
      .help]
  | .explain => [.sort, .desc, .verbose, .help]
  | .columns => [.verbose, .help]

def long? (l : Level) (name : List Char) : Option Switch :=
  l.switches.find? fun s => s.long.toList == name

def short? (l : Level) (c : Char) : Option Switch := l.switches.find? fun s => s.short? == some c

/-- How many operands may come. -/
def operands : Level → Nat
  | .search | .explain => 1
  | .top | .columns => 0

end Level

/-! ## Scanning -/

/-- What has been seen at a level. -/
structure Seen where
  /-- The options and their values, the last one first. A switch without a value has none. -/
  options : List (Switch × Option String)
  /-- The operands, the last one first. -/
  operands : List String

namespace Seen

def empty : Seen := ⟨[], []⟩

/-- The option has come. -/
def has (x : Seen) (s : Switch) : Bool := x.options.any fun o => o.1 == s

/-- The value of an option. -/
def value? (x : Seen) (s : Switch) : Option String :=
  (x.options.find? fun o => o.1 == s).bind (·.2)

/-- An option comes, at most once. Help and the version are requests of their own. -/
def option (x : Seen) (s : Switch) (value : Option String) : Except Request Seen :=
  match s with
  | .help => .error .help
  | .version => .error .version
  | _ =>
    if x.has s then .error .misuse
    else if value.all s.accepts then .ok { x with options := (s, value) :: x.options }
    else .error .misuse

/-- An operand comes, if there is room for it. -/
def operand (x : Seen) (l : Level) (arg : String) : Except Request Seen :=
  if x.operands.length < l.operands then .ok { x with operands := arg :: x.operands }
  else .error .misuse

end Seen

/-- An argument by its form. -/
inductive Shape where
  /-- Two hyphens. -/
  | rest
  | long (name : List Char) (value : Option (List Char))
  | cluster (letters : List Char)
  | operand
deriving DecidableEq, Repr

/-- The form of an argument. -/
def shape (arg : String) : Shape :=
  match arg.toList with
  | ['-', '-'] => .rest
  | '-' :: '-' :: s =>
    match s.dropWhile (· != '=') with
    | _ :: value => .long (s.takeWhile (· != '=')) (some value)
    | [] => .long s none
  | ['-'] => .operand
  | '-' :: s => .cluster s
  | _ => .operand

/-- What an option still wants after its argument. -/
inductive Pending where
  | nothing
  | valueOf (s : Switch)

/-- A cluster of short options. The rest of a cluster is the value of the first option that takes
one. -/
def scanCluster (l : Level) (x : Seen) : List Char → Except Request (Seen × Pending)
  | [] => .ok (x, .nothing)
  | c :: cs =>
    match l.short? c with
    | none => .error .misuse
    | some s =>
      if s.takesValue then
        match cs with
        | [] => .ok (x, .valueOf s)
        | '=' :: value => (x.option s (some (String.ofList value))).map (·, .nothing)
        | value => (x.option s (some (String.ofList value))).map (·, .nothing)
      else
        match x.option s none with
        | .error e => .error e
        | .ok x => scanCluster l x cs

/-- A long option. -/
def scanLong (l : Level) (x : Seen) (name : List Char) (value : Option (List Char)) :
    Except Request (Seen × Pending) :=
  match l.long? name with
  | none => .error .misuse
  | some s =>
    if s.takesValue then
      match value with
      | some v => (x.option s (some (String.ofList v))).map (·, .nothing)
      | none => .ok (x, .valueOf s)
    else
      match value with
      | some _ => .error .misuse
      | none => (x.option s none).map (·, .nothing)

/-- What a level ends with: at the top a command and its arguments, elsewhere nothing more. -/
inductive Ending where
  | done (x : Seen)
  | command (name : String) (args : List String)

/-- Operands after two hyphens. -/
def scanOperands (l : Level) (x : Seen) : List String → Except Request Ending
  | [] => .ok (.done x)
  | arg :: args =>
    match x.operand l arg with
    | .error e => .error e
    | .ok x => scanOperands l x args

/-- The arguments of a level, one option of which may still want its value. -/
def scan (l : Level) (x : Seen) : Pending → List String → Except Request Ending
  | .nothing, [] => .ok (.done x)
  | .valueOf _, [] => .error .misuse
  | .valueOf s, arg :: args =>
    match shape arg with
    | .operand =>
      match x.option s (some arg) with
      | .error e => .error e
      | .ok x => scan l x .nothing args
    | _ => .error .misuse
  | .nothing, arg :: args =>
    match shape arg with
    | .rest => scanOperands l x args
    | .long name value =>
      match scanLong l x name value with
      | .error e => .error e
      | .ok (x, pending) => scan l x pending args
    | .cluster letters =>
      match scanCluster l x letters with
      | .error e => .error e
      | .ok (x, pending) => scan l x pending args
    | .operand =>
      if l = .top then .ok (.command arg args)
      else
        match x.operand l arg with
        | .error e => .error e
        | .ok x => scan l x .nothing args

/-! ## Requests -/

/-- The filter of some arguments. A direction needs a column. -/
def Seen.filter? (x : Seen) : Option FilterArguments :=
  match x.operands with
  | [filter] =>
    if x.has .desc && !x.has .sort then none
    else some ⟨filter, x.value? .sort, x.has .desc⟩
  | _ => none

/-- The request of a level's arguments. -/
def Level.request (l : Level) (urlOfEnvironment : Option String) (x : Seen) : Request :=
  match l with
  | .top => .misuse
  | .columns => .columns
  | .explain =>
    match x.filter? with
    | some f => .explain f
    | none => .misuse
  | .search =>
    match x.filter? with
    | some f => .search {
        filter := f
        limit := ((x.value? .limit).bind Switch.readInt?).getD 25
        offset := ((x.value? .offset).bind Switch.readInt?).getD 0
        dryRun := x.has .dryRun
        format := ((x.value? .format).bind Switch.readFormat?).getD .table
        databaseUrl := (x.value? .databaseUrl).orElse fun _ => urlOfEnvironment
        config := x.value? .config }
    | none => .misuse

/-- The level of a command. -/
def Level.ofCommand? (name : String) : Option Level :=
  if name = "search" then some .search
  else if name = "explain" then some .explain
  else if name = "columns" then some .columns
  else none

/-- Help about a command, or about all of them. -/
def helpRequest : List String → Request
  | [] => .help
  | [name] => if name = "help" ∨ (Level.ofCommand? name).isSome then .help else .misuse
  | _ => .misuse

/-- The request of the arguments, where the environment may give an address of the database. -/
def request (urlOfEnvironment : Option String) (args : List String) : Request :=
  match scan .top .empty .nothing args with
  | .error r => r
  | .ok (.done _) => .misuse
  | .ok (.command name rest) =>
    match Level.ofCommand? name with
    | none => if name = "help" then helpRequest rest else .misuse
    | some l =>
      match scan l .empty .nothing rest with
      | .error r => r
      | .ok (.done x) => l.request urlOfEnvironment x
      | .ok (.command ..) => .misuse

end SearchFilter.CommandLine
