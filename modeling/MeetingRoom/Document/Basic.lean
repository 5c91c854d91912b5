import MeetingRoom.Document.Token

/-!
Documents: null, truth values, numbers, texts, arrays and objects. Members of an object are kept in
order and may repeat a key. The reader is a fold over tokens that keeps the containers part way
through in a list, so that depth is no limit, and it leaves nothing over: a document is one value
with only space around it.
-/

namespace MeetingRoom

inductive Document where
  | null
  | bool (value : Bool)
  | natural (value : Nat)
  | number (lexeme : String)
  | text (value : String)
  /-- A text literal that leaves a surrogate unpaired. It may stand where nobody reads it. -/
  | garbled
  | array (items : List Document)
  /-- A key is `none` if its literal leaves a surrogate unpaired. -/
  | object (members : List (Option String × Document))

namespace Document

/-- A container part way through. What it holds so far stands last first. -/
inductive Frame where
  | array (items : List Document)
  | object (members : List (Option String × Document)) (key : Option String)

/-- What the reader has to see next. -/
inductive Reading where
  | value (frames : List Frame)
  | firstItem (frames : List Frame)
  | firstKey (frames : List Frame)
  | key (members : List (Option String × Document)) (frames : List Frame)
  | colon (members : List (Option String × Document)) (key : Option String) (frames : List Frame)
  | afterItem (items : List Document) (frames : List Frame)
  | afterMember (members : List (Option String × Document)) (frames : List Frame)
  | done (document : Document)

namespace Reading

/-- A value is complete: it goes into the container around it. -/
def settle (document : Document) : List Frame → Reading
  | [] => done document
  | .array items :: frames => afterItem (document :: items) frames
  | .object members name :: frames => afterMember ((name, document) :: members) frames

def ofText : Option String → Document
  | some chars => .text chars
  | none => .garbled

def startValue (frames : List Frame) : Token → Option Reading
  | .openArray => some (firstItem frames)
  | .openObject => some (firstKey frames)
  | .null => some (settle .null frames)
  | .bool truth => some (settle (.bool truth) frames)
  | .natural count => some (settle (.natural count) frames)
  | .number lexeme => some (settle (.number lexeme) frames)
  | .text chars? => some (settle (ofText chars?) frames)
  | _ => none

def step : Reading → Token → Option Reading
  | value frames, token => startValue frames token
  | firstItem frames, .closeArray => some (settle (.array []) frames)
  | firstItem frames, token => startValue (.array [] :: frames) token
  | firstKey frames, .closeObject => some (settle (.object []) frames)
  | firstKey frames, .text name => some (colon [] name frames)
  | key members frames, .text name => some (colon members name frames)
  | colon members name frames, .colon => some (value (.object members name :: frames))
  | afterItem items frames, .comma => some (value (.array items :: frames))
  | afterItem items frames, .closeArray => some (settle (.array items.reverse) frames)
  | afterMember members frames, .comma => some (key members frames)
  | afterMember members frames, .closeObject => some (settle (.object members.reverse) frames)
  | _, _ => none

end Reading

def ofTokens? (tokens : List Token) : Option Document :=
  match tokens.foldlM Reading.step (.value []) with
  | some (.done document) => some document
  | _ => none

/-- The document that a text holds, if it holds exactly one. -/
def read (text : String) : Option Document := (Token.list? text.toList).bind ofTokens?

mutual
def tokens : Document → List Token
  | null => [.null]
  | bool value => [.bool value]
  | natural value => [.natural value]
  | number lexeme => [.number lexeme]
  | text value => [.text (some value)]
  | garbled => [.text none]
  | array items => .openArray :: itemTokens items
  | object members => .openObject :: memberTokens members

/-- The items, with commas between them and the end of the array behind them. -/
def itemTokens : List Document → List Token
  | [] => [.closeArray]
  | item :: rest => tokens item ++ moreItemTokens rest

def moreItemTokens : List Document → List Token
  | [] => [.closeArray]
  | item :: rest => .comma :: (tokens item ++ moreItemTokens rest)

def memberTokens : List (Option String × Document) → List Token
  | [] => [.closeObject]
  | (key, value) :: rest => .text key :: .colon :: (tokens value ++ moreMemberTokens rest)

def moreMemberTokens : List (Option String × Document) → List Token
  | [] => [.closeObject]
  | (key, value) :: rest =>
      .comma :: .text key :: .colon :: (tokens value ++ moreMemberTokens rest)
end

/-- The text of a document, without space. -/
def render (document : Document) : String :=
  String.ofList (document.tokens.flatMap Token.render)

end Document

end MeetingRoom
