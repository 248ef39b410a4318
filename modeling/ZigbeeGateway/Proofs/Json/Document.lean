import ZigbeeGateway.Proofs.Binary64.Shortest
import ZigbeeGateway.Proofs.Json.Tokens

/-!
# Documents read back

Every document has its sequence of tokens, and the reader builds the document from them
(`foldlM_tokens`).  `written` says as which document a value is printed; the printed text is cut into
the tokens of this document (`lexes_text`), so that the document is what is read
(`Document.read?_text`).
-/

namespace ZigbeeGateway.Json

open Binary64 Text

/-! ### Tokens of documents -/

mutual

/-- The tokens of a document. -/
def Document.tokens : Document → List Token
  | .null => [.null]
  | .bool b => [.bool b]
  | .number n => [.number n]
  | .string content => [.string content]
  | .array elements => .beginArray :: (elementTokens elements ++ [.endArray])
  | .object members => .beginObject :: (memberTokens members ++ [.endObject])

/-- The tokens of the elements of an array with commas between them. -/
def elementTokens : List Document → List Token
  | [] => []
  | [d] => d.tokens
  | d :: rest => d.tokens ++ .comma :: elementTokens rest

/-- The tokens of the members of an object with commas between them. -/
def memberTokens : List (Option String × Document) → List Token
  | [] => []
  | [(name, d)] => .string name :: .colon :: d.tokens
  | (name, d) :: rest => .string name :: .colon :: (d.tokens ++ .comma :: memberTokens rest)

end

open Reader (step)

/-- A first element is read as any other value. -/
theorem foldlM_elementOrEnd (d : Document) (rest : List Token) (frames : List Frame) :
    (d.tokens ++ rest).foldlM step ⟨frames, .elementOrEnd⟩ =
      (d.tokens ++ rest).foldlM step ⟨frames, .value⟩ := by
  cases d <;> rfl

/-- Closing an array whose last element is complete. -/
theorem foldlM_endArray (before : List Document) (d : Document) (frames : List Frame) :
    [Token.endArray].foldlM step ⟨.elements before :: frames, .next d⟩ =
      some ⟨frames, .next (.array (before.reverse ++ [d]))⟩ := by
  rw [← List.reverse_cons]
  rfl

theorem foldlM_endObject (before : List (Option String × Document)) (name : Option String)
    (d : Document) (frames : List Frame) :
    [Token.endObject].foldlM step ⟨.member before name :: frames, .next d⟩ =
      some ⟨frames, .next (.object (before.reverse ++ [(name, d)]))⟩ := by
  rw [← List.reverse_cons]
  rfl

mutual

/-- **The reader builds a document from its tokens.** -/
theorem foldlM_tokens (d : Document) (frames : List Frame) :
    d.tokens.foldlM step ⟨frames, .value⟩ = some ⟨frames, .next d⟩ := by
  match d with
  | .null => rfl
  | .bool b => rfl
  | .number n => rfl
  | .string content => rfl
  | .array [] => rfl
  | .array (d :: rest) =>
    have hrest := foldlM_elementTokens (d :: rest) [] frames (List.cons_ne_nil d rest)
    rw [Document.tokens]
    refine Eq.trans ?_ hrest
    -- The bracket could be closed at once, which a first element rules out.
    cases rest with
    | nil => exact foldlM_elementOrEnd d _ _
    | cons d' rest =>
      rw [elementTokens, List.append_assoc]
      · exact foldlM_elementOrEnd d _ _
      · exact List.cons_ne_nil d' rest
  | .object [] => rfl
  | .object (m :: rest) =>
    have hrest := foldlM_memberTokens (m :: rest) [] frames (List.cons_ne_nil m rest)
    rw [Document.tokens]
    refine Eq.trans ?_ hrest
    cases rest <;> rfl

/-- The elements of an array are put behind those that are read already. -/
theorem foldlM_elementTokens (elements before : List Document) (frames : List Frame)
    (hne : elements ≠ []) :
    (elementTokens elements ++ [Token.endArray]).foldlM step ⟨.elements before :: frames, .value⟩ =
      some ⟨frames, .next (.array (before.reverse ++ elements))⟩ := by
  match elements with
  | [] => exact absurd rfl hne
  | [d] =>
    rw [elementTokens, List.foldlM_append, foldlM_tokens d]
    exact foldlM_endArray before d frames
  | d :: d' :: rest =>
    have hrest := foldlM_elementTokens (d' :: rest) (d :: before) frames (List.cons_ne_nil d' rest)
    rw [List.reverse_cons, List.append_assoc] at hrest
    rw [elementTokens, List.append_assoc, List.foldlM_append, foldlM_tokens d]
    · exact hrest
    · exact List.cons_ne_nil d' rest

/-- The members of an object are put behind those that are read already. -/
theorem foldlM_memberTokens (members before : List (Option String × Document))
    (frames : List Frame) (hne : members ≠ []) :
    (memberTokens members ++ [Token.endObject]).foldlM step ⟨.members before :: frames, .name⟩ =
      some ⟨frames, .next (.object (before.reverse ++ members))⟩ := by
  match members with
  | [] => exact absurd rfl hne
  | [(name, d)] =>
    rw [memberTokens]
    show (d.tokens ++ [Token.endObject]).foldlM step ⟨.member before name :: frames, .value⟩ = _
    rw [List.foldlM_append, foldlM_tokens d]
    exact foldlM_endObject before name d frames
  | (name, d) :: m :: rest =>
    have hrest :=
      foldlM_memberTokens (m :: rest) ((name, d) :: before) frames (List.cons_ne_nil m rest)
    rw [List.reverse_cons, List.append_assoc] at hrest
    rw [memberTokens]
    · show ((d.tokens ++ _) ++ [Token.endObject]).foldlM step
        ⟨.member before name :: frames, .value⟩ = _
      rw [List.append_assoc, List.foldlM_append, foldlM_tokens d]
      exact hrest
    · exact List.cons_ne_nil m rest

end

/-- A text that is cut into the tokens of a document is read as the document. -/
theorem Document.read?_of_lexes {s : String} {d : Document} (h : Lexes s.toList d.tokens) :
    Document.read? s = some d := by
  unfold Document.read?
  rw [h.tokens?]
  show (d.tokens.foldlM step ⟨[], .value⟩).bind Reader.result? = _
  rw [foldlM_tokens]
  rfl

/-! ### Values as they are printed -/

/-- The document of a real number. -/
def writtenReal : Binary64 → Document
  | .finite negative rank => .number (.ofDecimal negative (shortest .even rank))
  | .infinite _ | .nan => .null

mutual

/-- The document that a value is printed as. -/
def written : Json → Document
  | .null => .null
  | .bool b => .bool b
  | .integer n => .number (.ofInteger n)
  | .real x => writtenReal x
  | .string s => .string (some s)
  | .array elements => .array (writtenElements elements)
  | .object fields => .object (writtenFields fields)

/-- The documents of the elements of an array. -/
def writtenElements : List Json → List Document
  | [] => []
  | element :: rest => element.written :: writtenElements rest

/-- The documents of the fields of an object. -/
def writtenFields : List (String × Json) → List (Option String × Document)
  | [] => []
  | (name, value) :: rest => (some name, value.written) :: writtenFields rest

end

/-- A mark that is no part of a numeral ends one. -/
theorem endsNumeral_cons {c : Char} (hc : isDecimal c = false ∧ c ≠ '.' ∧ c ≠ 'e' ∧ c ≠ 'E')
    (rest : List Char) : EndsNumeral (c :: rest) := by
  rintro c' hc'
  obtain rfl := Option.some.inj hc'
  exact hc

theorem lexes_realText (x : Binary64) : Lexes (realText x) (writtenReal x).tokens := by
  cases x with
  | nan => exact lexes_token rfl fun rest _ => rfl
  | infinite negative => exact lexes_token rfl fun rest _ => rfl
  | finite negative rank =>
    rw [Numeral.realText_finite]
    exact lexes_numeral (Numeral.isProper_ofDecimal negative (shortest_digits .even rank))

mutual

/-- **A printed value is cut into the tokens of its document.** -/
theorem lexes_text (j : Json) : Lexes j.text j.written.tokens := by
  match j with
  | .null => exact lexes_token rfl fun rest _ => rfl
  | .bool true => exact lexes_token rfl fun rest _ => rfl
  | .bool false => exact lexes_token rfl fun rest _ => rfl
  | .integer n =>
    rw [text, written, ← Numeral.text_ofInteger]
    exact lexes_numeral (Numeral.isProper_ofInteger n)
  | .real x =>
    rw [text, written]
    exact lexes_realText x
  | .string s => exact lexes_quoted s
  | .array elements =>
    rw [text, written, Document.tokens]
    exact (lexes_elementsText elements).cons_mark rfl fun _ => rfl
  | .object fields =>
    rw [text, written, Document.tokens]
    exact (lexes_fieldsText fields).cons_mark rfl fun _ => rfl

theorem lexes_elementsText (elements : List Json) :
    Lexes (elementsText elements ++ [']']) (elementTokens (writtenElements elements) ++ [.endArray]) := by
  match elements with
  | [] => exact lexes_nil.cons_mark rfl fun _ => rfl
  | [element] =>
    -- The bracket or the comma behind an element ends a numeral.
    exact (lexes_text element).append (lexes_nil.cons_mark rfl fun _ => rfl)
      fun rest _ => endsNumeral_cons (by decide) rest
  | element :: element' :: rest =>
    have hrest := (lexes_elementsText (element' :: rest)).cons_mark (c := ',') rfl fun _ => rfl
    have hboth := (lexes_text element).append hrest fun rest _ => endsNumeral_cons (by decide) _
    rw [elementsText, writtenElements, writtenElements, elementTokens, List.append_assoc,
      List.append_assoc]
    · exact hboth
    · exact List.cons_ne_nil _ _
    · exact List.cons_ne_nil _ _

theorem lexes_fieldsText (fields : List (String × Json)) :
    Lexes (fieldsText fields ++ ['}']) (memberTokens (writtenFields fields) ++ [.endObject]) := by
  match fields with
  | [] => exact lexes_nil.cons_mark rfl fun _ => rfl
  | [(name, value)] =>
    -- A numeral ends only where its follower is no part of it: a comma or a closing brace.
    have hvalue := (lexes_text value).append (lexes_nil.cons_mark (c := '}') rfl fun _ => rfl)
      fun rest _ => endsNumeral_cons (by decide) rest
    have hboth := (lexes_quoted name).append (hvalue.cons_mark (c := ':') rfl fun _ => rfl)
      fun rest _ => endsNumeral_cons (by decide) _
    rw [fieldsText, List.append_assoc]
    exact hboth
  | (name, value) :: field :: rest =>
    have hrest := (lexes_fieldsText (field :: rest)).cons_mark (c := ',') rfl fun _ => rfl
    have hvalue := (lexes_text value).append hrest fun rest _ => endsNumeral_cons (by decide) _
    have hboth := (lexes_quoted name).append (hvalue.cons_mark (c := ':') rfl fun _ => rfl)
      fun rest _ => endsNumeral_cons (by decide) _
    obtain ⟨name', value'⟩ := field
    rw [fieldsText, writtenFields, writtenFields, memberTokens, List.append_assoc]
    · simp only [List.cons_append, List.append_assoc]
      exact hboth
    · exact List.cons_ne_nil _ _
    · exact List.cons_ne_nil _ _

end

/-- **A printed value is read back as its document.** -/
theorem Document.read?_text (j : Json) : Document.read? (String.ofList j.text) = some j.written := by
  refine Document.read?_of_lexes ?_
  rw [String.toList_ofList]
  exact lexes_text j

end ZigbeeGateway.Json
