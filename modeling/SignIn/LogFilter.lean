import SignIn.Text.Alphanumeric
import SignIn.Text.Blank
import SignIn.Text.Split

/-!
# Log filters

A filter is a list of directives with commas between them: the least severe level that is logged,
for one target or for all, in a span or everywhere. The most specific directives come first, and of
two for the same target and span the later one counts.
-/

namespace SignIn

inductive LogLevel
  | off
  | error
  | warn
  | info
  | debug
  | trace
  deriving DecidableEq, Repr

namespace LogLevel

/-- All levels, each at the place of its number. -/
def all : List LogLevel := [off, error, warn, info, debug, trace]

def name : LogLevel → String
  | off => "off"
  | error => "error"
  | warn => "warn"
  | info => "info"
  | debug => "debug"
  | trace => "trace"

/-- Reads a number; a plus sign may stand before it. -/
def number? (text : List Char) : Option Nat :=
  let digits : List Char := match text with
    | '+' :: rest => rest
    | _ => text
  if digits.isEmpty ∨ ¬digits.all Char.isDigit then none
  else some (digits.foldl (fun n c => 10 * n + (c.toNat - 48)) 0)

/-- The level with a name in letters of either case, or with a number. -/
def ofChars? (text : List Char) : Option LogLevel :=
  match number? text with
  | some n => all[n]?
  | none =>
    if text.isEmpty then some error
    else all.find? fun level => level.name.toList = text.map Char.toLower

end LogLevel

structure LogDirective where
  target : Option String
  span : Option String
  level : LogLevel
  deriving DecidableEq, Repr

namespace LogDirective

def text (d : LogDirective) : String :=
  let place := d.target.getD "" ++ (d.span.map fun span => s!"[{span}]").getD ""
  if d.target.isNone ∧ d.span.isNone then d.level.name else s!"{place}={d.level.name}"

/-- The level of a directive, the least severe one if it is left out. -/
def level? (text : List Char) : Option LogLevel :=
  if text.isEmpty then some .trace else LogLevel.ofChars? text

/-- Reads the span of a directive and its level. -/
def withSpan? (target : Option String) (text : List Char) : Option LogDirective := do
  let (span, rest) ← Text.cut? ']' text
  let directive (level : LogLevel) : LogDirective := ⟨target, some (String.ofList span), level⟩
  if span.contains '\x7b' then none
  else
    match rest with
    | [] => some (directive .trace)
    | '=' :: level => (level? level).map directive
    | _ :: _ => none

/-- Reads a directive. Without a level it is a level itself or the name of a target. White space
around a directive is a part of it. -/
def ofChars? (text : List Char) : Option LogDirective := do
  let first ← (Text.trimStart text).head?
  if first = '[' then
    match text with
    | '[' :: rest => withSpan? none rest
    | _ => none
  else if ¬(Text.isAlphanumeric first || ['-', ':', '_'].contains first) then none
  else
    let place := text.takeWhile fun c => c != '=' && c != '['
    let target := some (String.ofList place)
    match text.drop place.length with
    | [] =>
      match LogLevel.ofChars? text with
      | some level => some ⟨none, none, level⟩
      | none => some ⟨target, none, .trace⟩
    | '=' :: level =>
      if (place.head?.map Text.isBlank) = some true then none
      else (level? level).map fun level => ⟨target, none, level⟩
    | _ :: span => withSpan? target span

/-- Whether two directives are for the same events. -/
def sameScope (a b : LogDirective) : Bool := a.target = b.target && a.span = b.span

/-- An order of optional texts in which none comes first. -/
def compareTexts (a b : Option String) : Ordering :=
  match a, b with
  | none, none => .eq
  | none, some _ => .lt
  | some _, none => .gt
  | some a, some b => compare a b

/-- An order by specificity: directives for everywhere before those for a span, then longer targets
before shorter ones, and names backwards. -/
def comesBefore (a b : LogDirective) : Bool :=
  let size (d : LogDirective) : Nat := (d.target.map fun t => t.utf8ByteSize + 1).getD 0
  let order := (compare (size b) (size a)).then <|
    (compareTexts b.target a.target).then (compareTexts b.span a.span)
  if a.span.isSome = b.span.isSome then order.isLE else b.span.isSome

end LogDirective

/-- Directives, no two of them for the same events. -/
structure LogFilter where
  directives : List LogDirective

namespace LogFilter

/-- The filter that is in force before the settings are read. -/
def initial : LogFilter := ⟨[⟨none, none, .info⟩]⟩

/-- Adds a directive in place of the one for the same events. -/
def add (directives : List LogDirective) (d : LogDirective) : List LogDirective :=
  directives.filter (fun other => !other.sameScope d) ++ [d]

/-- Reads a filter. Empty directives do not count. -/
def ofText? (text : String) : Option LogFilter := do
  let parts := (Text.split ',' text.toList).filter fun part => !part.isEmpty
  let directives ← parts.mapM LogDirective.ofChars?
  return ⟨directives.foldl add []⟩

/-- A filter in text, the most specific directives first. -/
def text (filter : LogFilter) : String :=
  ",".intercalate ((filter.directives.mergeSort LogDirective.comesBefore).map LogDirective.text)

/-- The filter in force after a text was given for it: a text that is none changes nothing. -/
def reload (filter : LogFilter) (text : String) : Bool × LogFilter :=
  match ofText? text with
  | some next => (true, next)
  | none => (false, filter)

end LogFilter

end SignIn
