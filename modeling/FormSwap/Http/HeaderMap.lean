import FormSwap.Http.Token

/-!
# Header maps

`HeaderMap` has the headers of a request. Names are compared up to ASCII case and have one or more
values each; a value is a list of octets, which need not be UTF-8. `append` adds a value after the
others of its name, `insert` replaces them.
-/

namespace FormSwap.Http

/-- `HeaderError` is the error of an invalid header. -/
inductive HeaderError where
  | name
  | value
deriving DecidableEq, Repr

/-- `e.message` is the text of a header error. -/
def HeaderError.message : HeaderError → String
  | .name => "invalid HTTP header name"
  | .value => "failed to parse header value"

/-- `HeaderMap` lists headers in order, with their names in lower case. -/
structure HeaderMap where
  entries : List (String × List UInt8) := []
deriving DecidableEq, Repr

namespace HeaderMap

/-- `normalName name` is the header name in lower case. -/
def normalName (name : String) : String :=
  String.ofList (lower name.toList)

/-- `m.append name value` adds a value after the others of its name. -/
def append (m : HeaderMap) (name : String) (value : List UInt8) : HeaderMap :=
  ⟨m.entries ++ [(normalName name, value)]⟩

/-- `m.insert name value` replaces all values of the name. -/
def insert (m : HeaderMap) (name : String) (value : List UInt8) : HeaderMap :=
  ⟨m.entries.filter (fun e => e.1 != normalName name) ++ [(normalName name, value)]⟩

/-- `m.first? name` is the first value of the name. -/
def first? (m : HeaderMap) (name : String) : Option (List UInt8) :=
  (m.entries.find? fun e => e.1 == normalName name).map (·.2)

/-- `check name value` checks a header, the name first. -/
def check (name : String) (value : List UInt8) : Except HeaderError Unit :=
  if !isToken name.toList then .error .name
  else if !isHeaderValue value then .error .value
  else .ok ()

/-- `addAll replace m headers` checks and adds the headers in order, with `insert` if `replace` is
set and with `append` otherwise. -/
def addAll (replace : Bool) :
    HeaderMap → List (String × List UInt8) → Except HeaderError HeaderMap
  | m, [] => .ok m
  | m, (name, value) :: rest =>
    match check name value with
    | .error e => .error e
    | .ok () => addAll replace (if replace then m.insert name value else m.append name value) rest

end HeaderMap

end FormSwap.Http
