/-!
# Headers of a form submission

The header names and values that mark a request as an AJAX submission.
-/

namespace FormSwap.Http

/-- `requestedWith` is the name of the marker header. -/
def requestedWith : String := "x-requested-with"

/-- `xmlHttpRequest` is the value of the marker header. -/
def xmlHttpRequest : String := "XMLHttpRequest"

/-- `formUrlencoded` is the content type of an encoded payload. -/
def formUrlencoded : String := "application/x-www-form-urlencoded"

/-- `marker` is the marker header. -/
def marker : String × String := (requestedWith, xmlHttpRequest)

/-- `formHeaders` lists the headers of every submission, by name. -/
def formHeaders : List (String × String) :=
  [("content-type", formUrlencoded), marker]

end FormSwap.Http
