import FormSwap.Json.Text
import FormSwap.Payload.Urlencoded

/-!
# Payloads

`Payload` is what a form submits: name and value pairs in submission order, the fields first and the
submitter last. `Payload.encode` and `Payload.decode` convert it to form-urlencoded text and back.
-/

namespace FormSwap

/-- `Submitter` is the control that triggered a submit, as a pair. -/
structure Submitter where
  name : String
  value : String
deriving DecidableEq, Repr

/-- `Payload` lists name and value pairs in submission order. -/
structure Payload where
  pairs : List (String × String) := []
deriving DecidableEq, Repr

namespace Payload

/-- `p.append name value` adds a pair at the end. -/
def append (p : Payload) (name value : String) : Payload :=
  ⟨p.pairs ++ [(name, value)]⟩

/-- `collect fields submitter` is the payload of a form. The submitter is added even if its name is
empty. -/
def collect (fields : List (String × String)) (submitter : Option Submitter) : Payload :=
  ⟨fields ++ submitter.toList.map fun s => (s.name, s.value)⟩

/-- `p.size` is the number of pairs. -/
def size (p : Payload) : Nat :=
  p.pairs.length

/-- `p.isEmpty` holds if there are no pairs. -/
def isEmpty (p : Payload) : Bool :=
  p.pairs.isEmpty

/-- `p.encode` is the payload as form-urlencoded text. -/
def encode (p : Payload) : String :=
  String.ofList (encodePairs p.pairs)

/-- `decode text` is the payload of a form-urlencoded text. -/
def decode (text : String) : Payload :=
  ⟨decodePairs text.toList⟩

/-- `p.json` is the payload as a JSON array of pairs. -/
def json (p : Payload) : String :=
  Json.array (p.pairs.map fun pair => Json.array [Json.string pair.1, Json.string pair.2])

end Payload

end FormSwap
