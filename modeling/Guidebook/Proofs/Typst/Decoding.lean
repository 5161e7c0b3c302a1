import Guidebook.Proofs.Span.NormalForm
import Guidebook.Proofs.Typst.Literal
import Guidebook.Typst.Inline

namespace Guidebook

/-!
# Reading typeset spans back

The markup of spans is cut into tokens again: texts, calls without content, and
the starts and ends of calls with content.  From these the spans come back, with
links in place of the images that could not be shown.  So spans with the same
markup differ at most in that, and no text can end the call that it stands in.
-/

mutual

/-- A span with links in place of images, as it is typeset. -/
def Span.linkImages : Span → Span
  | .text content => .text content
  | .bold content => .bold (Span.linkImagesAll content)
  | .italic content => .italic (Span.linkImagesAll content)
  | .strikethrough content => .strikethrough (Span.linkImagesAll content)
  | .code content => .code content
  | .link url content => .link url (Span.linkImagesAll content)
  | .image alt url => .link url [.text (if alt.isEmpty then url else alt)]

/-- Spans with links in place of images. -/
def Span.linkImagesAll : List Span → List Span
  | [] => []
  | span :: rest => span.linkImages :: Span.linkImagesAll rest

end

namespace Typst

/-- A call with content, the content being left out. -/
inductive Wrapper where
  | strong
  | emph
  | strike
  | link (url : Text)
  deriving Repr, DecidableEq

/-- The span that a call makes of its content.  A link that shows nothing shows an empty text. -/
def Wrapper.around (content : List Span) : Wrapper → Span
  | .strong => .bold content
  | .emph => .italic content
  | .strike => .strikethrough content
  | .link url => .link (String.ofList url) (if content.isEmpty then [.text ""] else content)

/-- What the markup of spans is made of. -/
inductive Token where
  | text (content : Text)
  | code (content : Text)
  | target (url : Text)
  | opening (wrapper : Wrapper)
  | closing
  deriving Repr, DecidableEq

/-- The text between parentheses, as a string literal, and the markup behind it. -/
def argument? : Text → Option (Text × Text)
  | '(' :: literal =>
      match unquote? literal with
      | some (text, ')' :: rest) => some (text, rest)
      | _ => none
  | _ => none

/-- The start of the content of a call that takes nothing else. -/
def Token.content? (wrapper : Wrapper) : Text → Option (Token × Text)
  | '[' :: rest => some (.opening wrapper, rest)
  | _ => none

/-- The code that a call shows, from its argument on. -/
def Token.code? (markup : Text) : Option (Token × Text) :=
  match argument? markup with
  | some (content, ';' :: rest) => some (.code content, rest)
  | _ => none

/-- A link that shows its target, or the start of one with a label, from its argument on. -/
def Token.link? (markup : Text) : Option (Token × Text) :=
  match argument? markup with
  | some (url, ';' :: rest) => some (.target url, rest)
  | some (url, '[' :: rest) => some (.opening (.link url), rest)
  | _ => none

/-- The token that a call starts with, from its word on, and the markup behind it. -/
def Token.call? (markup : Text) : Option (Token × Text) :=
  let word := markup.takeWhile Char.isAlpha
  let behind := markup.dropWhile Char.isAlpha
  if word = "strong".toList then content? .strong behind
  else if word = "emph".toList then content? .emph behind
  else if word = "strike".toList then content? .strike behind
  else if word = "raw".toList then code? behind
  else if word = "link".toList then link? behind
  else none

/-- The first token of some markup, and the markup behind it. -/
def Token.next? (markup : Text) : Option (Token × Text) :=
  match unescape markup with
  | ([], ']' :: ';' :: rest) => some (.closing, rest)
  | ([], '#' :: rest) => call? rest
  | ([], _) => none
  | (content, rest) => some (.text content, rest)

/-- Reading an argument takes its brackets at least. -/
theorem length_lt_of_argument?
    {markup text rest : Text}
    (found : argument? markup = some (text, rest)) :
    rest.length + 1 < markup.length := by
  unfold argument? at found
  split at found
  · split at found
    · next isLiteral =>
        cases found
        have shorter := length_lt_of_unquote? isLiteral
        simp only [List.length_cons] at shorter ⊢
        omega
    · cases found
  · cases found

theorem Token.length_lt_of_content?
    {wrapper : Wrapper}
    {markup rest : Text}
    {token : Token}
    (found : content? wrapper markup = some (token, rest)) :
    rest.length < markup.length := by
  unfold content? at found
  split at found
  · cases found
    simp
  · cases found

theorem Token.length_lt_of_code?
    {markup rest : Text}
    {token : Token}
    (found : code? markup = some (token, rest)) :
    rest.length < markup.length := by
  unfold code? at found
  split at found
  · next isArgument =>
      cases found
      have shorter := length_lt_of_argument? isArgument
      simp only [List.length_cons] at shorter
      omega
  · cases found

theorem Token.length_lt_of_link?
    {markup rest : Text}
    {token : Token}
    (found : link? markup = some (token, rest)) :
    rest.length < markup.length := by
  unfold link? at found
  split at found
  case h_3 =>
      cases found
  case h_1 isArgument | h_2 isArgument =>
      cases found
      have shorter := length_lt_of_argument? isArgument
      simp only [List.length_cons] at shorter
      omega

/-- A call takes up some of the markup that it is read from. -/
theorem Token.length_lt_of_call?
    {markup rest : Text}
    {token : Token}
    (found : call? markup = some (token, rest)) :
    rest.length < markup.length := by
  refine Nat.lt_of_lt_of_le ?_ (List.dropWhile_sublist Char.isAlpha).length_le
  unfold call? at found
  dsimp only at found
  split at found
  · exact length_lt_of_content? found
  split at found
  · exact length_lt_of_content? found
  split at found
  · exact length_lt_of_content? found
  split at found
  · exact length_lt_of_code? found
  split at found
  · exact length_lt_of_link? found
  · cases found

/-- Reading a token goes forward, whichever it is, so that reading all of them ends. -/
theorem Token.length_lt_of_next?
    {markup rest : Text}
    {token : Token}
    (found : next? markup = some (token, rest)) :
    rest.length < markup.length := by
  have bound := length_unescape_le markup
  unfold next? at found
  split at found
  case h_1 behind isClosing =>
      cases found
      rw [isClosing] at bound
      simp only [List.length_cons] at bound
      omega
  case h_2 behind isCall =>
      have shorter := length_lt_of_call? found
      rw [isCall] at bound
      simp only [List.length_cons] at bound
      omega
  case h_3 =>
      cases found
  case h_4 content behind notClosing notCall notOver isText =>
      cases found
      rw [isText] at bound
      have nonempty : 0 < content.length :=
        List.length_pos_iff.mpr notOver
      simp only at bound
      omega

/--
The spans of some markup, when calls have been opened whose content comes first, each
behind the spans before it, and these spans have been read since.
-/
def readSpans? (opened : List (Wrapper × List Span)) (before : List Span) (markup : Text) :
    Option (List Span) :=
  match _found : Token.next? markup with
  | none => if opened.isEmpty && markup.isEmpty then some before.reverse else none
  | some (.text content, rest) =>
      readSpans? opened (.text (String.ofList content) :: before) rest
  | some (.code content, rest) =>
      readSpans? opened (.code (String.ofList content) :: before) rest
  | some (.target url, rest) =>
      readSpans? opened (.link (String.ofList url) [] :: before) rest
  | some (.opening wrapper, rest) => readSpans? ((wrapper, before) :: opened) [] rest
  | some (.closing, rest) =>
      match opened with
      | [] => none
      | (wrapper, outside) :: others =>
          readSpans? others (wrapper.around before.reverse :: outside) rest
termination_by markup.length
decreasing_by
  all_goals exact Token.length_lt_of_next? _found

/-! ## Tokens of typeset spans -/

/-- The word of a call. -/
def Wrapper.word : Wrapper → String
  | .strong => "strong"
  | .emph => "emph"
  | .strike => "strike"
  | .link _ => "link"

/-- What stands between the word of a call and its content. -/
def Wrapper.argument : Wrapper → Text
  | .strong | .emph | .strike => []
  | .link url => '(' :: quote url ++ [')']

/-- The markup in front of the content of a call. -/
def Wrapper.start (wrapper : Wrapper) : Text :=
  '#' :: wrapper.word.toList ++ wrapper.argument ++ ['[']

/-- A call without arguments is its start, its content, and the sign that ends it. -/
theorem wrap_append
    {wrapper : Wrapper}
    (noArgument : wrapper.argument = [])
    (content rest : Text) :
    wrap wrapper.word content ++ rest = wrapper.start ++ (content ++ ']' :: ';' :: rest) := by
  simp [wrap, Wrapper.start, noArgument]

/-- A link with a label is the start of its call, the label, and the sign that ends it. -/
theorem link_append
    (url content rest : Text) :
    link url (some content) ++ rest =
      (Wrapper.link url).start ++ (content ++ ']' :: ';' :: rest) := by
  simp [link_some, Wrapper.start, Wrapper.word, Wrapper.argument]

/-- Markup that is a call, from its number sign to its semicolon. -/
def IsCall (markup : Text) : Prop :=
  ∃ inside, markup = '#' :: (inside ++ [';'])

/-- A call around content starts with the sign of code. -/
theorem isCall_wrap
    (name : String)
    (content : Text) :
    IsCall (wrap name content) :=
  ⟨name.toList ++ '[' :: content ++ [']'], by simp [wrap]⟩

theorem isCall_raw
    (text : Text) :
    IsCall (raw text) := by
  refine ⟨"raw(".toList ++ quote text ++ [')'], ?_⟩
  unfold raw
  rw [List.append_assoc, List.append_assoc]
  rfl

theorem isCall_link
    (url : Text)
    (label : Option Text) :
    IsCall (link url label) := by
  cases label with
  | none =>
      exact ⟨"link(".toList ++ quote url ++ [')'], by simp [link_none]⟩
  | some content =>
      exact ⟨"link(".toList ++ quote url ++ ')' :: '[' :: content ++ [']'], by simp [link_some]⟩

/-- Escaped text in front of a mark is read as that text. -/
theorem Token.next?_escape
    {content markup : Text}
    (nonempty : content ≠ [])
    (atMark : AtMark markup) :
    next? (escape content ++ markup) = some (.text content, markup) := by
  rw [next?, unescape_escape_append content atMark]
  split
  all_goals simp_all

/-- An argument in quotes is read as the text that was quoted. -/
theorem argument?_append
    (text rest : Text) :
    argument? ('(' :: (quote text ++ ')' :: rest)) = some (text, rest) := by
  rw [argument?, unquote?_quote_append]
  rfl

/-- The start of a call is read as its wrapper. -/
theorem Token.next?_start
    (wrapper : Wrapper)
    (rest : Text) :
    next? (wrapper.start ++ rest) = some (.opening wrapper, rest) := by
  cases wrapper with
  | strong | emph | strike =>
      rfl
  | link url =>
      have isLink :
          next? ((Wrapper.link url).start ++ rest) =
            link? ('(' :: (quote url ++ ')' :: '[' :: rest)) := by
        simp only [Wrapper.start, Wrapper.word, Wrapper.argument, List.append_assoc]
        rfl
      rw [isLink, link?, argument?_append]
      rfl

/-- Raw code is read as the code. -/
theorem Token.next?_raw
    (content rest : Text) :
    next? (raw content ++ rest) = some (.code content, rest) := by
  have isCode :
      next? (raw content ++ rest) = code? ('(' :: (quote content ++ ')' :: ';' :: rest)) := by
    unfold raw
    simp only [List.append_assoc]
    rfl
  rw [isCode, code?, argument?_append]
  rfl

/-- A link without a label is read as its target. -/
theorem Token.next?_link
    (url rest : Text) :
    next? (link url none ++ rest) = some (.target url, rest) := by
  have isLink :
      next? (link url none ++ rest) = link? ('(' :: (quote url ++ ')' :: ';' :: rest)) := by
    simp only [link_none, List.append_assoc]
    rfl
  rw [isLink, link?, argument?_append]
  rfl

/-! ## Spans from tokens -/

/-- Markup is read as some spans wherever a sign with a meaning follows it. -/
def Shows (content : Text) (spans : List Span) : Prop :=
  ∀ opened before {rest : Text},
    AtMark rest →
    readSpans? opened before (content ++ rest) =
      readSpans? opened (spans.reverse ++ before) rest

section Reading

variable
    (opened : List (Wrapper × List Span))
    (before : List Span)

/-- Reading goes on behind the first token. -/
theorem readSpans?_eq
    (markup : Text) :
    readSpans? opened before markup =
      match Token.next? markup with
      | none => if opened.isEmpty && markup.isEmpty then some before.reverse else none
      | some (.text content, rest) =>
          readSpans? opened (.text (String.ofList content) :: before) rest
      | some (.code content, rest) =>
          readSpans? opened (.code (String.ofList content) :: before) rest
      | some (.target url, rest) =>
          readSpans? opened (.link (String.ofList url) [] :: before) rest
      | some (.opening wrapper, rest) => readSpans? ((wrapper, before) :: opened) [] rest
      | some (.closing, rest) =>
          match opened with
          | [] => none
          | (wrapper, outside) :: others =>
              readSpans? others (wrapper.around before.reverse :: outside) rest := by
  rw [readSpans?]
  split
  all_goals next found => rw [found]

/-- Escaped text is put behind the spans that were read before it. -/
theorem readSpans?_escape
    {content markup : Text}
    (nonempty : content ≠ [])
    (atMark : AtMark markup) :
    readSpans? opened before (escape content ++ markup) =
      readSpans? opened (.text (String.ofList content) :: before) markup := by
  rw [readSpans?_eq, Token.next?_escape nonempty atMark]

theorem readSpans?_raw
    (content rest : Text) :
    readSpans? opened before (raw content ++ rest) =
      readSpans? opened (.code (String.ofList content) :: before) rest := by
  rw [readSpans?_eq, Token.next?_raw]

theorem readSpans?_link
    (url rest : Text) :
    readSpans? opened before (link url none ++ rest) =
      readSpans? opened (.link (String.ofList url) [] :: before) rest := by
  rw [readSpans?_eq, Token.next?_link]

/-- The start of a call lays aside the spans that were read before it. -/
theorem readSpans?_start
    (wrapper : Wrapper)
    (rest : Text) :
    readSpans? opened before (wrapper.start ++ rest) =
      readSpans? ((wrapper, before) :: opened) [] rest := by
  rw [readSpans?_eq, Token.next?_start]

/-- The end of a call wraps what was read in it and puts that behind what was laid aside. -/
theorem readSpans?_closing
    (wrapper : Wrapper)
    (outside : List Span)
    (rest : Text) :
    readSpans? ((wrapper, outside) :: opened) before (']' :: ';' :: rest) =
      readSpans? opened (wrapper.around before.reverse :: outside) rest := by
  have isClosing : Token.next? (']' :: ';' :: rest) = some (.closing, rest) :=
    rfl
  rw [readSpans?_eq, isClosing]

/-- A call is read as the span that it makes of its content. -/
theorem readSpans?_call
    (wrapper : Wrapper)
    {content : Text}
    {spans : List Span}
    (shows : Shows content spans)
    (rest : Text) :
    readSpans? opened before (wrapper.start ++ (content ++ ']' :: ';' :: rest)) =
      readSpans? opened (wrapper.around spans :: before) rest := by
  have atClosing : AtMark (']' :: ';' :: rest) :=
    atMark_cons rfl (by decide) _
  rw [readSpans?_start, shows _ _ atClosing, readSpans?_closing, List.append_nil,
    List.reverse_reverse]

end Reading

end Typst

namespace Span

open Typst

/-- A span that is no text is set as a call. -/
theorem isCall_typeset
    {span : Span}
    (noText : ¬ span.isText) :
    IsCall span.typeset := by
  cases span with
  | text content =>
      exact (noText rfl).elim
  | bold content | italic content | strikethrough content =>
      rw [typeset]
      exact isCall_wrap _ _
  | code content =>
      rw [typeset]
      exact isCall_raw _
  | link url content | image alt url =>
      rw [typeset]
      exact isCall_link _ _

/-- Spans in front of a sign with a meaning start with one themselves, unless text comes first. -/
theorem atMark_typesetAll_append
    {spans : List Span}
    (noText : ¬ spans.head?.any isText)
    {markup : Text}
    (atMark : AtMark markup) :
    AtMark (typesetAll spans ++ markup) := by
  cases spans with
  | nil =>
      exact atMark
  | cons span rest =>
      obtain ⟨inside, shape⟩ := isCall_typeset noText
      rw [typesetAll, shape]
      exact atMark_cons rfl (by decide) _

/-- The label of a link that shows one text, which may be empty. -/
theorem around_link_text
    (url : Text)
    (label : String) :
    Wrapper.around (if label.isEmpty then [] else [.text label]) (.link url) =
      .link (String.ofList url) [.text label] := by
  split
  · next isEmpty =>
      rw [String.isEmpty_iff.mp isEmpty]
      rfl
  · rfl

/-- Escaped text shows as one span of text, or as none when it is empty. -/
theorem shows_escape
    (content : String) :
    Shows (escape content.toList) (if content.isEmpty then [] else [.text content]) := by
  intro opened before rest atMark
  split
  · next isEmpty =>
      rw [String.isEmpty_iff.mp isEmpty]
      rfl
  · next notEmpty =>
      have nonempty : content.toList ≠ [] := by
        simpa using notEmpty
      rw [readSpans?_escape opened before nonempty atMark, String.ofList_toList]
      rfl

mutual

/-- A span in normal form is read back from its markup wherever that stands. -/
theorem readSpans?_typeset
    {span : Span}
    (normal : span.Normal)
    (opened : List (Wrapper × List Span))
    (before : List Span)
    {rest : Text}
    (atMark : span.isText → AtMark rest) :
    readSpans? opened before (span.typeset ++ rest) =
      readSpans? opened (span.linkImages :: before) rest := by
  cases span with
  | text content =>
      have nonempty : content.toList ≠ [] := by
        simpa [Normal] using normal
      rw [typeset, readSpans?_escape opened before nonempty (atMark rfl), linkImages,
        String.ofList_toList]
  | bold content =>
      have isCall := readSpans?_call opened before .strong (shows_typesetAll normal) rest
      rw [← wrap_append rfl] at isCall
      rw [typeset]
      exact isCall
  | italic content =>
      have isCall := readSpans?_call opened before .emph (shows_typesetAll normal) rest
      rw [← wrap_append rfl] at isCall
      rw [typeset]
      exact isCall
  | strikethrough content =>
      have isCall := readSpans?_call opened before .strike (shows_typesetAll normal) rest
      rw [← wrap_append rfl] at isCall
      rw [typeset]
      exact isCall
  | code content =>
      rw [typeset, readSpans?_raw, linkImages, String.ofList_toList]
  | link url content =>
      rw [typeset]
      cases content with
      | nil =>
          have isLink := readSpans?_link opened before url.toList rest
          rw [String.ofList_toList] at isLink
          exact isLink
      | cons first others =>
          have isCall := readSpans?_call opened before (.link url.toList)
            (shows_typesetAll normal) rest
          rw [← link_append, Wrapper.around, String.ofList_toList] at isCall
          exact isCall
  | image alt url =>
      have isCall := readSpans?_call opened before (.link url.toList)
        (shows_escape (if alt.isEmpty then url else alt)) rest
      rw [← link_append, around_link_text, String.ofList_toList] at isCall
      rw [typeset, linkImages]
      exact isCall

/-- Spans in normal form are read back from their markup in front of a sign with a meaning. -/
theorem shows_typesetAll
    {spans : List Span}
    (normal : NormalAll spans) :
    Shows (typesetAll spans) (linkImagesAll spans) := by
  intro opened before rest atMark
  cases spans with
  | nil =>
      rfl
  | cons span later =>
      obtain ⟨spanNormal, apart, laterNormal⟩ := normal
      have atMarkBehind : span.isText → AtMark (typesetAll later ++ rest) :=
        fun isText => atMark_typesetAll_append (apart isText) atMark
      rw [typesetAll, List.append_assoc, readSpans?_typeset spanNormal opened before atMarkBehind,
        shows_typesetAll laterNormal opened _ atMark, linkImagesAll, List.reverse_cons,
        List.append_assoc]
      rfl

end

/-- The markup of spans in normal form tells the spans, but for images, which it shows as links. -/
theorem readSpans?_typesetAll
    {spans : List Span}
    (normal : NormalAll spans) :
    readSpans? [] [] (typesetAll spans) = some (linkImagesAll spans) := by
  have whole := shows_typesetAll normal [] [] atMark_nil
  rw [List.append_nil, List.append_nil] at whole
  rw [whole, readSpans?_eq]
  exact congrArg some (List.reverse_reverse _)

/--
The markup of spans in normal form, as all spans are that are read, tells these
spans up to images, which are shown as links.  The text in it can be read back
wherever it stands, escaped or in a string literal.
-/
theorem linkImagesAll_eq_of_typesetAll_eq :
    (∀ text, NormalAll (read text)) ∧
      (∀ first second,
        NormalAll first →
        NormalAll second →
        typesetAll first = typesetAll second →
        linkImagesAll first = linkImagesAll second) ∧
      (∀ text rest, unquote? (quote text ++ rest) = some (text, rest)) ∧
      ∀ text rest, AtMark rest → unescape (escape text ++ rest) = (text, rest) := by
  refine ⟨normalAll_read, ?_, unquote?_quote_append, fun text _ => unescape_escape_append text⟩
  intro first second firstNormal secondNormal same
  have firstRead := readSpans?_typesetAll firstNormal
  have secondRead := readSpans?_typesetAll secondNormal
  rw [same, secondRead, Option.some.injEq] at firstRead
  exact firstRead.symm

/-- An image without a label looks like a link that shows its target. -/
theorem linkImagesAll_eq_of_typesetAll_eq_unlabelled :
    let first := [bold [text "];", image "" "\""], code "]"]
    let second := [bold [text "];", link "\"" [text "\""]], code "]"]
    NormalAll first ∧ NormalAll second ∧ typesetAll first = typesetAll second ∧
      linkImagesAll first = linkImagesAll second ∧
      AtMark ['#'] ∧ unescape (escape ['\\', 'a', ']'] ++ ['#']) = (['\\', 'a', ']'], ['#']) := by
  intro first second
  have firstNormal : NormalAll first := by
    simp [first, NormalAll, Normal, isText]
  have secondNormal : NormalAll second := by
    simp [second, NormalAll, Normal, isText]
  have same : typesetAll first = typesetAll second := by
    rfl
  have atMark : AtMark ['#'] :=
    atMark_cons rfl (by decide) []
  obtain ⟨-, determines, -, undoes⟩ := linkImagesAll_eq_of_typesetAll_eq
  exact ⟨firstNormal, secondNormal, same, determines first second firstNormal secondNormal same,
    atMark, undoes _ _ atMark⟩

end Span

end Guidebook
