import DeclarativeForm.Coercion
import DeclarativeForm.Keyed
import DeclarativeForm.Options.Slot

/-!
The functions that answer requests for options. A function answers at once or after a delay; time
is counted in milliseconds and never waited for. A limit on the time of a fetch lets an answer
through that comes at the limit.
-/

set_option autoImplicit false

namespace DeclarativeForm

/-- An answer and the milliseconds it takes; answers at once take none. -/
structure Reply where
  delay : Nat
  result : FetchResult

/-- A source of options: dependency values first, then the values of parameters. -/
abbrev OptionsFunction := List Json → Reply

abbrev FunctionTable := Keyed OptionsFunction

namespace FunctionTable

def immediate (function : List Json → FetchResult) : OptionsFunction := fun args =>
  ⟨0, function args⟩

/-- The reply of a function; one that is not there has no options. -/
def invoke (functions : FunctionTable) (name : String) (args : List Json) : Reply :=
  match functions.find? name with
  | some function => function args
  | none => ⟨0, .ok []⟩

def invokeNotices (functions : FunctionTable) (name : String) : List Notice :=
  if functions.has name then [] else [.unknownFunction name]

end FunctionTable

/-- A number of milliseconds in words: whole milliseconds below a second, and seconds with as many
places as they need from there on. -/
def describeMilliseconds (milliseconds : Nat) : String :=
  if milliseconds = 0 then "0ns"
  else if milliseconds < 1000 then toString milliseconds ++ "ms"
  else
    let rest := milliseconds % 1000
    let padded := List.replicate (3 - (toString rest).length) '0' ++ (toString rest).toList
    let places := (padded.reverse.dropWhile (· = '0')).reverse
    toString (milliseconds / 1000)
      ++ (if places.isEmpty then "" else "." ++ String.ofList places) ++ "s"

/-- The result of a reply under a limit. -/
def Reply.within (reply : Reply) (limit : Option Nat) (target : FetchTarget) : FetchResult :=
  match limit with
  | none => reply.result
  | some limit =>
    if reply.delay ≤ limit then reply.result
    else
      .error ("options fetch for " ++ target.key ++ " timed out after "
        ++ describeMilliseconds limit)

def FunctionTable.fetch (functions : FunctionTable) (limit : Option Nat) (ticket : Ticket) :
    FetchResult :=
  (functions.invoke ticket.function ticket.args).within limit ticket.target

/-- The row of a table that a list of arguments selects: the one of their texts joined by bars, or
else the one of the star. -/
def selectRow {α : Type} (rows : List (String × α)) (args : List Json) : Option α :=
  let key := String.intercalate "|" (args.map Json.displayText)
  (rows.lookup key).or (rows.lookup "*")

end DeclarativeForm
