/-!
# Front ends

An interactive front end shows output in a pane and supplies input: through modal prompts, through
requests in the run pane, or from a static field. It answers prompts from a queue; an answer of none,
like an exhausted queue, cancels the request. What it was asked and shown is kept as a list of events.
-/

namespace Hostcall.Pane

/-- The number of a front end, in order of creation. -/
abbrev FrontEndId := Nat

structure FrontEnd where
  /-- Whether it drives the machine at all. -/
  attached : Bool := true
  /-- Whether input is typed into the run pane instead of a static field. -/
  interactive : Bool
  /-- The content of the static input field. -/
  field : String := ""
  /-- The answers to the prompts to come. -/
  answers : List (Option String) := []
  deriving Repr, DecidableEq

/-- Something a front end was asked or shown. -/
inductive Event where
  | posted (front : FrontEndId) (text : String)
  | promptedLine (front : FrontEndId) (prompt : String)
  | promptedBounded (front : FrontEndId) (limit : Int)
  deriving Repr, DecidableEq

/-- Takes the next answer off the queue. -/
def FrontEnd.answer (f : FrontEnd) : Option String × FrontEnd :=
  match f.answers with
  | [] => (none, f)
  | a :: rest => (a, { f with answers := rest })

end Hostcall.Pane
