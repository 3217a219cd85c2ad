import Walkthrough.Json.Printer

/-! # Responses

The answer to a request is data, or an error.  An error is a chain of texts from the outermost
context to the cause; its message joins them. -/

namespace Walkthrough

/-- The message of a chain of contexts. -/
def chainMessage (chain : List String) : String := String.intercalate ": " chain

/-- The answer to a request. -/
inductive Response where
  | success (data : Json)
  | error (message : String)

namespace Response

/-- The error of a chain of contexts. -/
def ofChain (chain : List String) : Response := error (chainMessage chain)

/-- The answer as an object: its status first.  The fields inside the data are sorted. -/
def toJson : Response → Json
  | success data => .obj [("status", .str "success"), ("data", data.sorted)]
  | error message => .obj [("status", .str "error"), ("message", .str message)]

/-- The line of an answer, without the newline that ends it. -/
def line (r : Response) : String := r.toJson.compact

end Response

end Walkthrough
