import AppServer.Template.Helper

/-!
# Journals of renderings

What a rendering does, in turn: which helpers it calls, which tokens it reads, what
it writes. What is written for a text of its own, such as the value of an argument
or the body of an inclusion, stands between two marks, the second of which holds
that text.
-/

namespace AppServer.Template

/-- Where a helper is called: by a tag, or for an argument that its value or text is to be. -/
inductive Place where
  | tag
  | argument
deriving DecidableEq, Repr

/-- What a helper is called with, apart from what stands in its block. -/
structure Invocation extends Inputs where
  name : String
  blockParams : List String := []

inductive Entry where
  | called (place : Place) (invocation : Invocation)
  | read (token : String)
  | wrote (text : String)
  /-- What is written from here on makes a text of its own. -/
  | opened
  /-- The text that was begun last is finished. -/
  | closed (text : String)

end AppServer.Template
