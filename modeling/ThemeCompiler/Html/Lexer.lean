/-
**Reading tokens.**

Each reader takes the characters that are left and returns what it read with the characters after
it.  A tag that does not end is dropped with all that follows; a comment or a document type ends at
the latest with the text.

Main definitions:

* `ThemeCompiler.Html.readTag` — a tag from its name on;
* `ThemeCompiler.Html.readComment`, `ThemeCompiler.Html.readDoctype` — the other constructs;
* `ThemeCompiler.Html.splitRaw`, `ThemeCompiler.Html.splitEscapable`,
  `ThemeCompiler.Html.splitScript` — the text of an element up to its end tag;
* `ThemeCompiler.Html.readTokens` — the next tokens of a text.
-/

import ThemeCompiler.Html.CharRef
import ThemeCompiler.Html.Token

set_option relaxedAutoImplicit false
set_option autoImplicit false

namespace ThemeCompiler

namespace Html

open Text (isAsciiBlank)

/-! ### Preparing a text -/

/-- A text whose line ends are all line feeds. -/
def unifyLineEnds : List Char → List Char
  | [] => []
  | '\r' :: '\n' :: cs => '\n' :: unifyLineEnds cs
  | '\r' :: cs => '\n' :: unifyLineEnds cs
  | c :: cs => c :: unifyLineEnds cs

/-- The characters that are left where reading begins: a byte order mark is passed over. -/
def dropByteOrderMark : List Char → List Char
  | '\uFEFF' :: cs => cs
  | cs => cs

/-- What follows the first character of the class `p`, which is passed over too. -/
def dropPast (p : Char → Bool) (cs : List Char) : List Char := (cs.dropWhile (!p ·)).drop 1

/-! ### Attributes -/

/-- Whether a character ends the name of a tag. -/
def endsName (c : Char) : Bool := isAsciiBlank c || c == '/' || c == '>'

/-- A character of a tag name or attribute name. -/
def nameChar (c : Char) : Char := replaceNull c.toLower

/-- **An attribute value up to the first character of the class `stop`**, which is left.  `skip`
counts the characters that belong to a reference already read.  There is no value when no such
character comes. -/
def readValue (stop : Char → Bool) : List Char → Nat → Option (List Char × List Char)
  | [], _ => none
  | _ :: cs, skip + 1 => readValue stop cs skip
  | c :: cs, 0 =>
      if stop c then some ([], c :: cs)
      else if c == '&' then
        let ref := readCharRef true cs
        (readValue stop cs ref.length).map fun r => (ref.chars ++ r.1, r.2)
      else (readValue stop cs 0).map fun r => (replaceNull c :: r.1, r.2)

/-- The value after an equals sign: in quotes of either kind, or up to a blank or the end of the
tag. -/
def readAttrValue (cs : List Char) : Option (List Char × List Char) :=
  match cs.dropWhile isAsciiBlank with
  | [] => none
  | c :: rest =>
      if c == '"' || c == '\'' then
        (readValue (· == c) rest 0).map fun r => (r.1, r.2.drop 1)
      else if c == '>' then some ([], c :: rest)
      else readValue (fun d => isAsciiBlank d || d == '>') (c :: rest) 0

/-- An attribute list, last one first, with one more unless its name is there already. -/
def addAttr (attrs : List Attribute) (name value : List Char) : List Attribute :=
  let name := String.ofList name
  if attrs.any (·.name == name) then attrs else ⟨name, String.ofList value⟩ :: attrs

/-- **The attributes of a tag and its end.**  The result tells whether the tag closes itself.
`fuel` bounds the number of attributes and slashes, `attrs` holds those read, last one first. -/
def readAttrs : Nat → List Attribute → List Char →
    Option (List Attribute × Bool × List Char)
  | 0, _, _ => none
  | fuel + 1, attrs, cs =>
      match cs.dropWhile isAsciiBlank with
      | [] => none
      | c :: rest =>
          if c == '>' then some (attrs.reverse, false, rest)
          else if c == '/' then
            match rest with
            | '>' :: rest => some (attrs.reverse, true, rest)
            | rest => readAttrs fuel attrs rest
          else
            let name := c :: rest.takeWhile fun d => !(endsName d || d == '=')
            match ((c :: rest).drop name.length).dropWhile isAsciiBlank with
            | '=' :: rest =>
                match readAttrValue rest with
                | some (value, rest) =>
                    readAttrs fuel (addAttr attrs (name.map nameChar) value) rest
                | none => none
            | rest => readAttrs fuel (addAttr attrs (name.map nameChar) []) rest

/-- **A tag from its name on.** -/
def readTag (cs : List Char) : Option (Tag × List Char) :=
  let name := cs.takeWhile (!endsName ·)
  (readAttrs (cs.length + 1) [] (cs.drop name.length)).map fun (attrs, selfClosing, rest) =>
    (⟨String.ofList (name.map nameChar), attrs, selfClosing⟩, rest)

/-! ### Comments -/

/-- The content of a comment whose first characters do not end it. -/
def readCommentBody : List Char → List Char × List Char
  | [] => ([], [])
  | ['-'] => ([], [])
  | ['-', '-'] => ([], [])
  | ['-', '-', '!'] => ([], [])
  | '-' :: '-' :: '>' :: rest => ([], rest)
  | '-' :: '-' :: '!' :: '>' :: rest => ([], rest)
  | c :: cs => let (content, rest) := readCommentBody cs; (replaceNull c :: content, rest)

/-- **The content of a comment**, after its opening. -/
def readComment : List Char → List Char × List Char
  | '>' :: rest => ([], rest)
  | '-' :: '>' :: rest => ([], rest)
  | cs => readCommentBody cs

/-- A construct that is read as a comment up to the next `>`. -/
def readBogus (cs : List Char) : Token × List Char :=
  (.comment (String.ofList ((cs.takeWhile (· != '>')).map replaceNull)), dropPast (· == '>') cs)

/-! ### Document types -/

/-- Whether a text begins with a word, in whatever case. -/
def beginsWith (word : String) (cs : List Char) : Bool :=
  (cs.take word.length).map Char.toLower == word.toList

/-- A quoted identifier after its opening quote, with what follows it; nothing follows when the
declaration ends inside of the quotes. -/
def readIdentifier (quote : Char) (cs : List Char) : String × Option (List Char) × List Char :=
  let content := cs.takeWhile fun c => c != quote && c != '>'
  let id := String.ofList (content.map replaceNull)
  match cs.drop content.length with
  | [] => (id, none, [])
  | c :: rest => if c == quote then (id, some rest, []) else (id, none, rest)

/-- A declaration that is malformed, with what follows its end. -/
def brokenDoctype (doctype : Doctype) (cs : List Char) : Doctype × List Char :=
  ({ doctype with isMalformed := true }, dropPast (· == '>') cs)

/-- A declaration from its system identifier on.  `required` tells that one has to be there. -/
def readSystemId (doctype : Doctype) (required : Bool) (cs : List Char) : Doctype × List Char :=
  match cs.dropWhile isAsciiBlank with
  | [] => brokenDoctype doctype []
  | c :: rest =>
      if c == '>' then ({ doctype with isMalformed := required }, rest)
      else if c == '"' || c == '\'' then
        match readIdentifier c rest with
        | (id, none, rest) => ({ doctype with systemId := some id, isMalformed := true }, rest)
        | (id, some rest, _) =>
            let doctype := { doctype with systemId := some id }
            if (rest.dropWhile isAsciiBlank).isEmpty then brokenDoctype doctype []
            else (doctype, dropPast (· == '>') rest)
      else brokenDoctype doctype (c :: rest)

/-- A declaration from its public identifier on. -/
def readPublicId (doctype : Doctype) (cs : List Char) : Doctype × List Char :=
  match cs.dropWhile isAsciiBlank with
  | [] => brokenDoctype doctype []
  | c :: rest =>
      if c == '"' || c == '\'' then
        match readIdentifier c rest with
        | (id, none, rest) => ({ doctype with publicId := some id, isMalformed := true }, rest)
        | (id, some rest, _) => readSystemId { doctype with publicId := some id } false rest
      else brokenDoctype doctype (c :: rest)

/-- **A document type declaration**, after its keyword. -/
def readDoctype (cs : List Char) : Doctype × List Char :=
  let empty : Doctype := ⟨none, none, none, false⟩
  match cs.dropWhile isAsciiBlank with
  | [] => brokenDoctype empty []
  | '>' :: rest => ({ empty with isMalformed := true }, rest)
  | c :: rest =>
      let name := (c :: rest).takeWhile fun d => !isAsciiBlank d && d != '>'
      let doctype := { empty with name := some (String.ofList (name.map nameChar)) }
      match ((c :: rest).drop name.length).dropWhile isAsciiBlank with
      | [] => brokenDoctype doctype []
      | '>' :: rest => (doctype, rest)
      | rest =>
          if beginsWith "public" rest then readPublicId doctype (rest.drop 6)
          else if beginsWith "system" rest then readSystemId doctype true (rest.drop 6)
          else brokenDoctype doctype rest

/-! ### Text of an element -/

/-- Whether the end tag of an element begins here. -/
def atEndTag (element : String) (cs : List Char) : Bool :=
  beginsWith ("</" ++ element) cs && (cs.drop (element.length + 2)).head?.any endsName

/-- **The text up to the end tag of an element**, which is left. -/
def splitRaw (element : String) : List Char → List Char × List Char
  | [] => ([], [])
  | c :: cs =>
      if c == '<' && atEndTag element (c :: cs) then ([], c :: cs)
      else let (content, rest) := splitRaw element cs; (replaceNull c :: content, rest)

/-- **The text up to the end tag of an element, with references resolved.**  `skip` counts the
characters that belong to a reference already read. -/
def splitEscapable (element : String) : List Char → Nat → List Char × List Char
  | [], _ => ([], [])
  | _ :: cs, skip + 1 => splitEscapable element cs skip
  | c :: cs, 0 =>
      if c == '<' && atEndTag element (c :: cs) then ([], c :: cs)
      else if c == '&' then
        let ref := readCharRef false cs
        let (content, rest) := splitEscapable element cs ref.length
        (ref.chars ++ content, rest)
      else let (content, rest) := splitEscapable element cs 0; (replaceNull c :: content, rest)

/-- Where a reader of a script stands.  Inside a comment, and inside a script tag in a comment, the
number of hyphens just read counts up to two. -/
inductive ScriptState where
  | plain
  | inComment (hyphens : Nat)
  | inNested (hyphens : Nat)

/-- Whether a script tag, not an end tag, begins after a `<`. -/
def opensScript (cs : List Char) : Bool :=
  beginsWith "script" cs && (cs.drop 6).head?.any endsName

/-- Where a reader of a script stands after one more character. -/
def ScriptState.next (state : ScriptState) (c : Char) (cs : List Char) : ScriptState :=
  match state with
  | .plain => if c == '<' && "!--".toList.isPrefixOf cs then .inComment 0 else .plain
  | .inComment hyphens =>
      if c == '-' then .inComment (min 2 (hyphens + 1))
      else if c == '>' && hyphens == 2 then .plain
      else if c == '<' && opensScript cs then .inNested 0
      else .inComment 0
  | .inNested hyphens =>
      if c == '-' then .inNested (min 2 (hyphens + 1))
      else if c == '>' && hyphens == 2 then .plain
      else if c == '<' && atEndTag "script" (c :: cs) then .inComment 0
      else .inNested 0

/-- Whether an end tag ends the script. -/
def ScriptState.mayEnd : ScriptState → Bool
  | .inNested _ => false
  | _ => true

/-- **The text of a script up to its end tag**, which is left. -/
def splitScript : ScriptState → List Char → List Char × List Char
  | _, [] => ([], [])
  | state, c :: cs =>
      if state.mayEnd && c == '<' && atEndTag "script" (c :: cs) then ([], c :: cs)
      else
        let (content, rest) := splitScript (state.next c cs) cs
        (replaceNull c :: content, rest)

/-- The tokens of the text of an element and the end tag after it. -/
def closeText (split : List Char × List Char) : List Token × List Char :=
  match split.2 with
  | [] => (Token.ofRaw split.1, [])
  | rest =>
      match readTag (rest.drop 2) with
      | some (tag, rest) => (Token.ofRaw split.1 ++ [.endTag tag], rest)
      | none => (Token.ofRaw split.1, [])

/-! ### Markup -/

/-- The content of a marked section, after its opening. -/
def readSection : List Char → List Char × List Char
  | [] => ([], [])
  | ']' :: ']' :: '>' :: rest => ([], rest)
  | c :: cs => let (content, rest) := readSection cs; (c :: content, rest)

/-- The tokens after `<!`.  A marked section counts only inside foreign elements. -/
def readDeclaration (inForeign : Bool) (cs : List Char) : List Token × List Char :=
  if "--".toList.isPrefixOf cs then
    let (content, rest) := readComment (cs.drop 2)
    ([.comment (String.ofList content)], rest)
  else if beginsWith "doctype" cs then
    let (doctype, rest) := readDoctype (cs.drop 7)
    ([.doctype doctype], rest)
  else if inForeign && "[CDATA[".toList.isPrefixOf cs then
    let (content, rest) := readSection (cs.drop 7)
    (Token.ofChars content, rest)
  else
    let (token, rest) := readBogus cs
    ([token], rest)

/-- The tokens after `</`. -/
def readEndTag (cs : List Char) : List Token × List Char :=
  match cs with
  | [] => ([.text "</"], [])
  | c :: rest =>
      if c.isAlpha then
        match readTag cs with
        | some (tag, rest) => ([.endTag tag], rest)
        | none => ([], [])
      else if c == '>' then ([.mistake], rest)
      else
        let (token, rest) := readBogus cs
        ([token], rest)

/-- The tokens after `<`. -/
def readAngle (inForeign : Bool) (cs : List Char) : List Token × List Char :=
  match cs with
  | '!' :: rest => readDeclaration inForeign rest
  | '/' :: rest => readEndTag rest
  | '?' :: _ =>
      let (token, rest) := readBogus cs
      ([token], rest)
  | c :: _ =>
      if c.isAlpha then
        match readTag cs with
        | some (tag, rest) => ([.startTag tag], rest)
        | none => ([], [])
      else ([.text "<"], cs)
  | [] => ([.text "<"], [])

/-- The next tokens of markup. -/
def readMarkup (inForeign : Bool) (cs : List Char) : List Token × List Char :=
  match cs with
  | [] => ([.done], [])
  | '<' :: rest => readAngle inForeign rest
  | '&' :: rest =>
      let ref := readCharRef false rest
      ((if ref.isMalformed then [.mistake] else []) ++ Token.ofChars ref.chars,
        rest.drop ref.length)
  | cs =>
      let isPlain := fun c => c != '<' && c != '&'
      (Token.ofChars (cs.takeWhile isPlain), cs.dropWhile isPlain)

/-- **The next tokens of a text.**  Some characters are read whenever there are any; the end of the
text is a token once there are none. -/
def readTokens (mode : TextMode) (inForeign : Bool) (cs : List Char) : List Token × List Char :=
  if cs.isEmpty then ([.done], [])
  else match mode with
    | .markup => readMarkup inForeign cs
    | .raw element => closeText (splitRaw element cs)
    | .script => closeText (splitScript .plain cs)
    | .plain => (Token.ofRaw (cs.map replaceNull), [])
    | .escapable element =>
        let (tokens, rest) := closeText (splitEscapable element cs 0)
        let startsBadly := match cs with
          | '&' :: after => (readCharRef false after).isMalformed
          | _ => false
        (if startsBadly then .mistake :: tokens else tokens, rest)

end Html

end ThemeCompiler
