import Guidebook.Proofs.Code.Classification
import Guidebook.Proofs.Code.JsonMatches
import Guidebook.Proofs.Code.Settled

namespace Guidebook

/-!
# Strings in JSON texts

The rule for keys goes over the whole line before the rule for strings does, and
tries every quote, also one that closes a string.  From there it reads up to the
quote that opens the next string, so that it goes wrong just where that string
starts with a colon.  The invariant is that up to the first such place the rule
either passes over a token or claims it as a whole.
-/

open Json

/-! ## From one string to the next -/

theorem Json.Token.eq_string_of_content?
    {token : Token}
    {content : Content}
    (isString : token.content? = some content) :
    token = .string content := by
  cases token with
  | string other =>
      exact congrArg Token.string (Option.some.inj isString)
  | _ =>
      cases isString

/-- Tokens without a string among them are spelled with ordinary characters. -/
theorem isOrdinary_of_mem_sources
    {tokens : List Token}
    (noString : ∀ token ∈ tokens, token.content? = none) :
    ∀ character ∈ Token.sources tokens, isOrdinary character := by
  intro character member
  obtain ⟨text, isSource, inText⟩ := List.mem_flatten.mp member
  obtain ⟨token, isToken, rfl⟩ := List.mem_map.mp isSource
  exact isOrdinary_of_mem_source (noString token isToken) character inText

/-- The text up to the next string, and that string. -/
theorem exists_sources_of_nextContent?
    {after : List Token}
    {next : Content}
    (isNext : Token.nextContent? after = some next) :
    ∃ between behind : Text,
      Token.sources after = between ++ '"' :: (next.source ++ '"' :: behind) ∧
        ∀ character ∈ between, isOrdinary character := by
  obtain ⟨front, token, back, shape, isString, noString⟩ :=
    List.findSome?_eq_some_iff.mp isNext
  refine ⟨Token.sources front, Token.sources back, ?_, isOrdinary_of_mem_sources noString⟩
  rw [shape, Token.eq_string_of_content? isString, Token.sources_append, Token.sources_cons,
    Token.source_string_append]

/-- A quote in front of tokens without a string is not closed. -/
theorem quotedExtent?_sources_of_no_string
    {after : List Token}
    (noNext : Token.nextContent? after = none) :
    quotedExtent? '"' (Token.sources after) = none := by
  have ordinary := isOrdinary_of_mem_sources (List.findSome?_eq_none_iff.mp noNext)
  rw [← List.append_nil (Token.sources after), quotedExtent?_ordinary_append ordinary]
  rfl

namespace Rule

/-- From the quote that closes a string the rule for keys reads to where the next one opens. -/
theorem exists_matchAt?_jsonKey_closing
    {after : List Token}
    {next : Content}
    (isNext : Token.nextContent? after = some next) :
    ∃ found : Match, found.lead = 0 ∧
      ∀ before,
        jsonKey.matchAt? before ('"' :: Token.sources after) =
          if next.source.ColonFirst then some found else none := by
  obtain ⟨between, behind, shape, ordinary⟩ := exists_sources_of_nextContent? isNext
  have closes :
      quotedExtent? '"' (between ++ '"' :: (next.source ++ '"' :: behind)) =
        some (1 + between.length) :=
    quotedExtent?_ordinary_append ordinary _
  have behindOpening :
      (between ++ '"' :: (next.source ++ '"' :: behind)).drop (1 + between.length) =
        next.source ++ '"' :: behind := by
    rw [Nat.add_comm, ← List.drop_drop, List.drop_left]
    rfl
  refine ⟨⟨0, 1 + between.length + 1, Text.indent (next.source ++ '"' :: behind) + 1⟩, rfl, ?_⟩
  intro before
  rw [shape, matchAt?_jsonKey closes, behindOpening]
  simp only [Text.colonFirst_append_quote_iff]

/-- No key starts at the end of a string when no colon follows the next one. -/
theorem matchAt?_jsonKey_closing_eq_none
    {after : List Token}
    (noColon : ∀ next ∈ Token.nextContent? after, ¬ next.source.ColonFirst)
    (before : Option Char) :
    jsonKey.matchAt? before ('"' :: Token.sources after) = none := by
  cases isNext : Token.nextContent? after with
  | none =>
      exact matchAt?_jsonKey_of_unclosed (quotedExtent?_sources_of_no_string isNext) before
  | some next =>
      obtain ⟨found, -, isMatch⟩ := exists_matchAt?_jsonKey_closing isNext
      rw [isMatch, if_neg (noColon next isNext)]

/-- Behind a string without a colon comes no string that starts with one. -/
def KeepsApart (after : List Token) : Prop :=
  ¬ (Token.sources after).ColonFirst →
    ∀ next ∈ Token.nextContent? after, ¬ next.source.ColonFirst

/-- Keys are claimed token by token when strings are kept apart from colons. -/
theorem aligned_jsonKey
    {tokens rest : List Token}
    (apart :
      ∀ front content back,
        tokens = front ++ .string content :: back → KeepsApart (back ++ rest)) :
    jsonKey.Aligned (Token.sources rest) (tokens.map Token.source) := by
  induction tokens with
  | nil =>
      exact .nil
  | cons token tokens inductionHypothesis =>
      have alignedBehind := inductionHypothesis fun front content back shape =>
        apart (token :: front) content back (congrArg (token :: ·) shape)
      have sameBehind :
          (tokens.map Token.source).flatten ++ Token.sources rest =
            Token.sources (tokens ++ rest) :=
        (Token.sources_append tokens rest).symm
      cases isString : token.content? with
      | none =>
          refine .passes (passes_jsonKey_of_noQuote ?_ _) alignedBehind
          intro member
          cases isOrdinary_of_mem_source isString '"' member
      | some content =>
          obtain rfl := Token.eq_string_of_content? isString
          by_cases colon : (Token.sources (tokens ++ rest)).ColonFirst
          · refine .takes ?_ alignedBehind
            rw [sameBehind]
            exact takes_jsonKey_string content colon
          · refine .passes ?_ alignedBehind
            rw [sameBehind]
            exact passes_jsonKey_string content colon
              (matchAt?_jsonKey_closing_eq_none (apart [] content tokens rfl colon))

/-- Strings are claimed token by token. -/
theorem aligned_string
    {parts : List Text}
    (fromTokens : ∀ part ∈ parts, ∃ token : Token, token.source = part)
    (behind : Text) :
    string.Aligned behind parts := by
  induction parts with
  | nil =>
      exact .nil
  | cons part parts inductionHypothesis =>
      obtain ⟨⟨token, isSource⟩, restFromTokens⟩ := List.forall_mem_cons.mp fromTokens
      have alignedBehind := inductionHypothesis restFromTokens
      subst isSource
      cases isString : token.content? with
      | none =>
          exact .passes (passes_string_of_ordinary (isOrdinary_of_mem_source isString) _)
            alignedBehind
      | some content =>
          obtain rfl := Token.eq_string_of_content? isString
          exact .takes (takes_string content _) alignedBehind

end Rule

/-- The kind that a string token in front of some tokens is of. -/
def Json.stringKind (after : List Token) : TokenKind :=
  if (Token.sources after).ColonFirst then .key else .string

/-- A string token between others is a fragment of its own, of the right kind. -/
def Json.ShowsString
    (fragments : List Fragment)
    (before : List Token)
    (content : Content)
    (after : List Token) :
    Prop :=
  ∃ front back,
    fragments =
        front ++
          Fragment.classified (stringKind after) (Token.source (.string content)) :: back ∧
      front.flatMap Fragment.text = Token.sources before

namespace Rule

/-- Behind whole tokens the rule for strings claims a string that is not a key. -/
theorem exists_divide_json_tail
    {left : List Text}
    (fromTokens : ∀ part ∈ left, ∃ token : Token, token.source = part)
    (content : Content)
    (behind : Text) :
    ∃ front back,
      divide json.tail (left.flatten ++ (Token.source (.string content) ++ behind)) =
          front ++ Fragment.classified .string (Token.source (.string content)) :: back ∧
        front.flatMap Fragment.text = left.flatten := by
  let gap := divide json.tail.tail
  have keeps : ∀ part, (gap part).flatMap Fragment.text = part :=
    flatMap_text_divide json.tail.tail
  have aligned := aligned_string fromTokens (Token.source (.string content) ++ behind)
  obtain ⟨front, last, before, same, sameText, -⟩ := aligned.exists_cutFrom keeps [] none
  refine ⟨front ++ gap last.flatten, string.cutFrom gap []
    (characterBefore before (Token.source (.string content) ++ behind)
      (Token.source (.string content)).length) behind, ?_, ?_⟩
  · have isCut : divide json.tail = string.cutFrom gap [] none :=
      funext (cut_eq_cutFrom robust_string.nonempty)
    rw [isCut, ← List.flatten_nil, same, (takes_string content behind).cutFrom_eq,
      List.append_assoc]
    rfl
  · rw [List.flatMap_append, keeps]
    exact sameText

end Rule

namespace Language

open Rule

/-- On JSON data keys are cut out first. -/
theorem highlightLine_json
    (text : Text) :
    json.highlightLine text = jsonKey.cutFrom (divide Rule.json.tail) [] none text := by
  rw [highlightLine, classify_eq_divide]
  exact cut_eq_cutFrom robust_jsonKey.nonempty text

/-- The rule for keys comes to a token, when it has kept to the tokens before. -/
theorem exists_highlightLine_json
    {before rest : List Token}
    (apart :
      ∀ front content back,
        before = front ++ .string content :: back → KeepsApart (back ++ rest)) :
    ∃ (front : List Fragment) (left : List Text) (last : Option Char),
      json.highlightLine (Token.sources (before ++ rest)) =
          front ++
            jsonKey.cutFrom (divide Rule.json.tail) left.flatten last (Token.sources rest) ∧
        front.flatMap Fragment.text ++ left.flatten = Token.sources before ∧
        ∀ part ∈ left, ∃ token : Token, token.source = part := by
  obtain ⟨front, left, last, same, sameText, fromParts⟩ :=
    (aligned_jsonKey apart).exists_cutFrom (flatMap_text_divide Rule.json.tail) [] none
  refine ⟨front, left, last, ?_, sameText, ?_⟩
  · rw [highlightLine_json, Token.sources_append]
    exact same
  · intro part member
    obtain ⟨token, -, isSource⟩ := List.mem_map.mp (fromParts member)
    exact ⟨token, isSource⟩

/-- A string is shown when no string up to it is followed by one that starts with a colon. -/
theorem showsString_of_apart
    {before : List Token}
    {content : Content}
    {after : List Token}
    (apart :
      ∀ front other back,
        before = front ++ .string other :: back → KeepsApart (back ++ .string content :: after))
    (apartHere : KeepsApart after) :
    ShowsString (json.highlightLine (Token.sources (before ++ .string content :: after)))
      before content after := by
  obtain ⟨front, left, last, same, sameText, fromTokens⟩ := exists_highlightLine_json apart
  rw [Token.sources_cons] at same
  have keeps := flatMap_text_divide Rule.json.tail
  by_cases colon : (Token.sources after).ColonFirst
  · have isKey : stringKind after = .key :=
      if_pos colon
    have frontText :
        (front ++ divide Rule.json.tail left.flatten).flatMap Fragment.text =
          Token.sources before := by
      rw [List.flatMap_append, keeps, sameText]
    rw [(takes_jsonKey_string content colon).cutFrom_eq, ← List.append_assoc] at same
    rw [ShowsString, isKey]
    exact ⟨_, _, same, frontText⟩
  · have isString : stringKind after = .string :=
      if_neg colon
    have passes := passes_jsonKey_string content colon
      (matchAt?_jsonKey_closing_eq_none (apartHere colon))
    rw [passes.cutFrom_append] at same
    generalize characterBefore last _ _ = next at same
    obtain ⟨more, back, isGap⟩ := exists_gap jsonKey (divide Rule.json.tail)
      (left.flatten ++ Token.source (.string content)) next (Token.sources after)
    obtain ⟨inner, innerBack, isInner, innerText⟩ :=
      exists_divide_json_tail fromTokens content more
    have frontText : (front ++ inner).flatMap Fragment.text = Token.sources before := by
      rw [List.flatMap_append, innerText, sameText]
    rw [isGap, List.append_assoc left.flatten, isInner, List.append_assoc, ← List.append_assoc,
      List.cons_append] at same
    rw [ShowsString, isString]
    exact ⟨_, _, same, frontText⟩

/-- A fragment that starts behind the start of another one starts behind its end. -/
theorem length_flatMap_text_le
    {front back others rest : List Fragment}
    {first second : Fragment}
    (same : front ++ first :: back = others ++ second :: rest)
    (further :
      (front.flatMap Fragment.text).length < (others.flatMap Fragment.text).length) :
    (front.flatMap Fragment.text).length + first.text.length ≤
      (others.flatMap Fragment.text).length := by
  rcases List.append_eq_append_iff.mp same with ⟨between, isFront, isBack⟩ | ⟨between, isFront, -⟩
  · cases between with
    | nil =>
        rw [isFront, List.append_nil] at further
        exact (Nat.lt_irrefl _ further).elim
    | cons other between =>
        obtain ⟨isFirst, -⟩ := List.cons.inj isBack
        rw [isFront, isFirst, List.flatMap_append, List.flatMap_cons, List.length_append,
          List.length_append, ← Nat.add_assoc]
        exact Nat.le_add_right _ _
  · rw [isFront, List.flatMap_append, List.length_append] at further
    omega

/-- The first string that a string with a colon in front follows is not shown. -/
theorem not_showsString_of_colonFirst
    {before : List Token}
    {content : Content}
    {after : List Token}
    (apart :
      ∀ front other back,
        before = front ++ .string other :: back → KeepsApart (back ++ .string content :: after))
    (notApart : ¬ KeepsApart after) :
    ¬ ShowsString (json.highlightLine (Token.sources (before ++ .string content :: after)))
      before content after := by
  rintro ⟨shown, rest, isShown, shownText⟩
  simp only [KeepsApart, Classical.not_imp, not_forall, not_not] at notApart
  obtain ⟨noColon, next, isNext, colon⟩ := notApart
  obtain ⟨found, noLead, isMatch⟩ := exists_matchAt?_jsonKey_closing isNext
  obtain ⟨front, left, last, same, sameText, -⟩ := exists_highlightLine_json apart
  have divided :
      Token.sources (.string content :: after) =
        ('"' :: content.source) ++ ('"' :: Token.sources after) := by
    rw [Token.sources_cons, Token.source_string_append]
    rfl
  rw [divided, (passes_jsonKey_opening content noColon).cutFrom_append] at same
  generalize characterBefore last _ _ = closing at same
  have isClaim := isMatch closing
  rw [if_pos colon] at isClaim
  rw [cutFrom_of_some isClaim, noLead, List.take_zero, List.append_nil, ← List.append_assoc] at same
  have frontText :
      (front ++ divide Rule.json.tail (left.flatten ++ '"' :: content.source)).flatMap
          Fragment.text =
        Token.sources before ++ '"' :: content.source := by
    rw [List.flatMap_append, flatMap_text_divide, ← List.append_assoc, sameText]
  have bound := length_flatMap_text_le (isShown.symm.trans same)
  rw [frontText, shownText, List.length_append, List.length_cons] at bound
  have longer := bound (Nat.lt_add_of_pos_right (Nat.succ_pos _))
  rw [Nat.add_le_add_iff_left, Fragment.classified, Token.length_source_string] at longer
  exact Nat.not_succ_le_self _ longer

/--
In a line of JSON all strings are fragments of their own, those in front of a
colon as keys and the others as strings, just when no string that is not a key
comes before one that starts with a colon.
-/
theorem showsString_iff_keepsApart
    (tokens : List Token) :
    (∀ before content after,
        tokens = before ++ .string content :: after →
        ShowsString (json.highlightLine (Token.sources tokens)) before content after) ↔
      ∀ before content after,
        tokens = before ++ .string content :: after → KeepsApart after := by
  constructor
  · intro shows before content after shape
    -- A string that comes earlier stands behind fewer tokens.
    induction isLength : before.length using Nat.strong_induction_on
      generalizing before content after with
    | _ length inductionHypothesis =>
        by_contra notApart
        have shown := shows before content after shape
        rw [shape] at shown
        refine not_showsString_of_colonFirst ?_ notApart shown
        intro front other back isFront
        have earlier : front.length < length := by
          rw [← isLength, isFront, List.length_append, List.length_cons]
          exact Nat.lt_add_of_pos_right (Nat.succ_pos _)
        refine inductionHypothesis front.length earlier front other _ ?_ rfl
        rw [shape, isFront, List.append_assoc]
        rfl
  · rintro apart before content after rfl
    refine showsString_of_apart ?_ (apart before content after rfl)
    rintro front other back rfl
    exact apart front other _ (List.append_assoc _ _ _)

/-- The rule for keys takes the comma between an empty string and one that starts with a colon. -/
theorem not_showsString_behind_empty :
    ¬ ∀ tokens before content after,
      IsText tokens →
      tokens = before ++ .string content :: after →
      ShowsString (json.highlightLine (Token.sources tokens)) before content after := by
  intro shows
  let colon : Content := [.plain ':' (by decide)]
  let rest : List Token := [.comma, .string colon, .closeArray]
  have isText : IsText (.openArray :: .string [] :: rest) :=
    .array (.cons (.string []) (.last (.string colon)))
  obtain ⟨front, back, same, -⟩ := shows _ [.openArray] [] rest isText rfl
  have fragments :
      json.highlightLine (Token.sources (.openArray :: .string [] :: rest)) =
        [Fragment.plain ['[', '"'], Fragment.classified .key ['"', ',', '"'],
          Fragment.plain [':', '"', ']']] := by
    cbv
  have isOne :
      Fragment.classified (stringKind rest) ['"', '"'] ∈
        front ++ Fragment.classified (stringKind rest) ['"', '"'] :: back :=
    List.mem_append_right front List.mem_cons_self
  have isFragment := same.symm ▸ isOne
  rw [fragments] at isFragment
  simp [Fragment.classified, Fragment.plain] at isFragment

end Language

end Guidebook
