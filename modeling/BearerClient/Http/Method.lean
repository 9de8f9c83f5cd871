/-!
# Request methods

A method is a token: one or more of the characters that HTTP allows in names. Its case matters, so a
method is kept as it is given; only the command line puts what the user types into upper case.
-/

namespace BearerClient

/-- Whether `c` may stand in a token. -/
def isTokenChar (c : Char) : Bool :=
  c.isAlphanum ||
    ['!', '#', '$', '%', '&', '\'', '*', '+', '-', '.', '^', '_', '\x60', '|', '~'].contains c

/-- Whether the text is a token. -/
def isToken (s : String) : Bool := !s.isEmpty && s.toList.all isTokenChar

/-- A request method. -/
structure Method where
  /-- The name of the method. -/
  name : String
  /-- The name is a token. -/
  isToken_name : isToken name = true
  deriving DecidableEq, Repr

namespace Method

/-- The method with the given name, if that is a token. -/
def ofName? (name : String) : Option Method :=
  if h : isToken name = true then some ⟨name, h⟩ else none

/-- The method that reads. -/
def get : Method := ⟨"GET", by decide⟩

/-- The method that creates. -/
def post : Method := ⟨"POST", by decide⟩

/-- A character in upper case, which may be more than one. Besides the ASCII letters these are the
characters whose upper case is ASCII; all others cannot be part of a method anyway. -/
def upperChar (c : Char) : List Char :=
  match c with
  | 'ß' => ['S', 'S']
  | 'ı' => ['I']
  | 'ſ' => ['S']
  | 'ﬀ' => ['F', 'F']
  | 'ﬁ' => ['F', 'I']
  | 'ﬂ' => ['F', 'L']
  | 'ﬃ' => ['F', 'F', 'I']
  | 'ﬄ' => ['F', 'F', 'L']
  | 'ﬅ' => ['S', 'T']
  | 'ﬆ' => ['S', 'T']
  | c => [c.toUpper]

/-- The method that a user has typed in any case. -/
def ofTyped? (typed : String) : Option Method :=
  ofName? (.ofList (typed.toList.flatMap upperChar))

end Method

end BearerClient
