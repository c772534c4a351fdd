import ClientAuth.Exchange.Http
import ClientAuth.Proofs.AsciiText

/-! Halves of characters in a document. Main statement: `Http.isWhole_document`, a call can be
written down in characters of Unicode exactly if all its texts can. -/
namespace ClientAuth

namespace Text

/-- Whether characters spell a half. -/
def hasHalf (chars : List Char) : Bool := (codes chars).any isHalf

theorem hasHalf_eq_false_iff {text : String} :
    hasHalf text.toList = false ↔ isWhole text = true := by
  rw [isWhole, hasHalf, Bool.not_eq_true']

/-- What a piece of a text adds to it: halves or none, whatever follows. -/
def Adds (piece : List Char) (half : Bool) : Prop :=
  ∀ rest, hasHalf (piece ++ rest) = (half || hasHalf rest)

theorem Adds.append {front back : List Char} {x y : Bool} (hFront : Adds front x)
    (hBack : Adds back y) : Adds (front ++ back) (x || y) := by
  intro rest
  rw [List.append_assoc, hFront, hBack, Bool.or_assoc]

theorem Adds.hasHalf_eq {piece : List Char} {half : Bool} (h : Adds piece half) :
    hasHalf piece = half := by
  simpa [hasHalf, codes] using h []

theorem hasHalf_cons {c : Char} (h : c ≠ mark) (rest : List Char) :
    hasHalf (c :: rest) = (isHalf c.toNat || hasHalf rest) := by
  rw [hasHalf, codes_cons h, List.any_cons]
  rfl

theorem ne_mark_of_ascii {c : Char} (h : c.toNat < 128) : c ≠ mark := by
  rintro rfl
  exact absurd h (by decide)

theorem isHalf_of_ascii {c : Char} (h : c.toNat < 128) : isHalf c.toNat = false :=
  decide_eq_false (by omega)

theorem adds_of_ascii {piece : List Char} (h : ∀ c ∈ piece, c.toNat < 128) :
    Adds piece false := by
  intro rest
  induction piece with
  | nil => rfl
  | cons c piece ih =>
      have hFirst := h c List.mem_cons_self
      rw [List.cons_append, hasHalf_cons (ne_mark_of_ascii hFirst), isHalf_of_ascii hFirst,
        Bool.false_or, ih fun d hMem => h d (List.mem_cons_of_mem _ hMem)]

theorem adds_of_isAscii {text : String} (h : IsAscii text) : Adds text.toList false :=
  adds_of_ascii h

/-- A mark without a partner takes the character behind it, which makes no half of it. -/
theorem hasHalf_mark_cons {c : Char} (h : c.toNat < 128) (rest : List Char) :
    hasHalf (mark :: c :: rest) = hasHalf rest := by
  have hCode : c.toNat - shift = 0 := by
    simp only [shift]
    omega
  simp only [hasHalf, codes, if_true, if_neg (ne_mark_of_ascii h), hCode, List.any_cons]
  rfl

theorem adds_intercalate {α : Type} {items : List α} {text : α → String} {half : α → Bool}
    (h : ∀ item ∈ items, Adds (text item).toList (half item)) :
    Adds (",".intercalate (items.map text)).toList (items.any half) := by
  induction items with
  | nil => exact adds_of_ascii nofun
  | cons item items ih =>
      have hItem := h item List.mem_cons_self
      cases items with
      | nil => simpa using hItem
      | cons next items =>
          have hRest := ih fun other hMem => h other (List.mem_cons_of_mem _ hMem)
          have hComma : Adds ",".toList false := adds_of_isAscii (by decide)
          rw [List.map_cons, List.map_cons, String.intercalate_cons_cons, String.toList_append,
            String.toList_append, List.any_cons]
          simpa using (hItem.append hComma).append hRest

end Text

namespace Json

theorem escape_of_ascii {c : Char} (h : c.toNat < 128) :
    escape c ≠ [] ∧ ∀ d ∈ escape c, d.toNat < 128 := by
  have hAll : ∀ code < 128, escape (Char.ofNat code) ≠ [] ∧
      (escape (Char.ofNat code)).all (·.toNat < 128) = true := by
    decide +kernel
  simpa using hAll c.toNat h

theorem escape_of_not_ascii {c : Char} (h : ¬c.toNat < 128) : escape c = [c] := by
  have hOther {d : Char} (hAscii : d.toNat < 128) : c ≠ d := by
    rintro rfl
    exact h hAscii
  have hControl : ¬c.toNat < 0x20 := by omega
  rw [escape, if_neg (hOther (by decide)), if_neg (hOther (by decide)),
    if_neg (hOther (by decide)), if_neg (hOther (by decide)), if_neg (hOther (by decide)),
    if_neg (hOther (by decide)), if_neg (hOther (by decide)), if_neg hControl]

/-- An escape is in ASCII, as the character was. -/
theorem hasHalf_escape {c : Char} (h : c ≠ Text.mark) (rest : List Char) :
    Text.hasHalf (escape c ++ rest) = Text.hasHalf (c :: rest) := by
  by_cases hAscii : c.toNat < 128
  · rw [Text.adds_of_ascii (escape_of_ascii hAscii).2, Text.hasHalf_cons h,
      Text.isHalf_of_ascii hAscii]
  · rw [escape_of_not_ascii hAscii, List.singleton_append]

theorem hasHalf_mark_escape (c : Char) (rest : List Char) :
    Text.hasHalf (Text.mark :: (escape c ++ rest)) = Text.hasHalf (Text.mark :: c :: rest) := by
  by_cases hAscii : c.toNat < 128
  · obtain ⟨hSome, hMore⟩ := escape_of_ascii hAscii
    obtain ⟨first, more, hEscape⟩ := List.exists_cons_of_ne_nil hSome
    rw [hEscape, List.forall_mem_cons] at hMore
    rw [hEscape, List.cons_append, Text.hasHalf_mark_cons hMore.1, Text.hasHalf_mark_cons hAscii,
      Text.adds_of_ascii hMore.2, Bool.false_or]
  · rw [escape_of_not_ascii hAscii, List.singleton_append]

/-- Between its quotes a text has the halves that it has without them. -/
theorem hasHalf_flatMap_escape (chars rest : List Char) :
    Text.hasHalf (chars.flatMap escape ++ '"' :: rest) =
      (Text.hasHalf chars || Text.hasHalf rest) := by
  have hQuote : ('"').toNat < 128 := by decide
  have hMark : escape Text.mark = [Text.mark] := escape_of_not_ascii (by decide)
  have hNone : Text.hasHalf [] = false := rfl
  have hEnd : Text.hasHalf ('"' :: rest) = Text.hasHalf rest := by
    rw [Text.hasHalf_cons (Text.ne_mark_of_ascii hQuote), Text.isHalf_of_ascii hQuote,
      Bool.false_or]
  -- A mark and the character behind it are read together, as in the code points of the text.
  induction chars using Text.codes.induct with
  | case1 => exact hEnd
  | case2 c =>
      by_cases hSame : c = Text.mark
      · rw [hSame, List.flatMap_singleton, hMark]
        exact Text.hasHalf_mark_cons hQuote rest
      · rw [List.flatMap_singleton, hasHalf_escape hSame, Text.hasHalf_cons hSame,
          Text.hasHalf_cons hSame, hEnd, hNone, Bool.or_false]
  | case3 c chars ih =>
      have hPair (more : List Char) : Text.hasHalf (Text.mark :: c :: more) =
          (Text.isHalf (if c = Text.mark then Text.mark.toNat else c.toNat - Text.shift) ||
            Text.hasHalf more) := by
        simp only [Text.hasHalf, Text.codes, if_true, List.any_cons]
      rw [List.flatMap_cons, hMark, List.flatMap_cons, List.append_assoc, List.append_assoc,
        List.singleton_append, hasHalf_mark_escape, hPair, hPair, ih, Bool.or_assoc]
  | case4 c d chars hSame ih =>
      rw [List.flatMap_cons, List.append_assoc, hasHalf_escape hSame, Text.hasHalf_cons hSame,
        Text.hasHalf_cons hSame, ih, Bool.or_assoc]

theorem adds_writeText (text : String) :
    Text.Adds (writeText text).toList (Text.hasHalf text.toList) := by
  intro rest
  have hQuote : ('"').toNat < 128 := by decide
  have hText : (writeText text).toList ++ rest =
      '"' :: (text.toList.flatMap escape ++ '"' :: rest) := by
    simp [writeText]
  rw [hText, Text.hasHalf_cons (Text.ne_mark_of_ascii hQuote), Text.isHalf_of_ascii hQuote,
    Bool.false_or, hasHalf_flatMap_escape]

theorem writeMembers_eq_map (members : List (String × Json)) :
    writeMembers members =
      members.map fun (name, value) => writeText name ++ ":" ++ value.write := by
  induction members with
  | nil => rfl
  | cons member members ih => rw [writeMembers, ih, List.map_cons]

/-- An object has the halves of its names and those of its values. -/
theorem adds_object {α : Type} (items : List α) (member : α → String × Json) (half : α → Bool)
    (h : ∀ item ∈ items, Text.Adds (member item).2.write.toList (half item)) :
    Text.Adds (Json.object (items.map member)).write.toList
      (items.any fun item => Text.hasHalf (member item).1.toList || half item) := by
  have hOpen : Text.Adds "\x7b".toList false := Text.adds_of_isAscii (by decide)
  have hClose : Text.Adds "\x7d".toList false := Text.adds_of_isAscii (by decide)
  have hColon : Text.Adds ":".toList false := Text.adds_of_isAscii (by decide)
  have hMembers : Text.Adds (",".intercalate (writeMembers (items.map member))).toList
      (items.any fun item => Text.hasHalf (member item).1.toList || half item) := by
    rw [writeMembers_eq_map, List.map_map]
    refine Text.adds_intercalate fun item hMem => ?_
    rw [Function.comp_apply, String.toList_append, String.toList_append]
    simpa using ((adds_writeText (member item).1).append hColon).append (h item hMem)
  rw [write, String.toList_append, String.toList_append]
  simpa using (hOpen.append hMembers).append hClose

end Json

namespace Parameters

/-- The names and the values. -/
def texts (parameters : Parameters) : List String :=
  parameters.flatMap fun (name, value) => [name, value]

theorem adds_write (parameters : Parameters) :
    Text.Adds (toJson parameters).write.toList
      (parameters.texts.any fun text => Text.hasHalf text.toList) := by
  have hObject := Json.adds_object parameters (fun (name, value) => (name, .text value))
    (fun entry => Text.hasHalf entry.2.toList) fun entry _ => Json.adds_writeText entry.2
  rw [toJson, texts, List.any_flatMap]
  simpa using hObject

end Parameters

/-- The texts that a call carries beside its fixed ones. -/
def Call.texts (clientId : String) : Call → List String
  | .initiate parameters => clientId :: parameters.texts
  | .respond answer =>
      answer.challenge :: clientId :: (answer.responses.texts ++ answer.session.toList)

namespace Http

/-- Halves in a document are halves in the texts of its call. -/
theorem adds_document (clientId : String) (call : Call) :
    Text.Adds (document clientId call).write.toList
      ((call.texts clientId).any fun text => Text.hasHalf text.toList) := by
  -- Members, each beside what it adds.
  have hMembers (items : List ((String × Json) × Bool))
      (h : ∀ item ∈ items, Text.Adds item.1.2.write.toList item.2) :=
    Json.adds_object items (·.1) (·.2) h
  have hText (value : String) :
      Text.Adds (Json.text value).write.toList (Text.hasHalf value.toList) :=
    Json.adds_writeText value
  have hParameters (parameters : Parameters) := parameters.adds_write
  have hFixed : ∀ text ∈ ["AuthFlow", srpFlow, "ClientId", "AuthParameters", "ChallengeName",
      "ChallengeResponses", "Session"], Text.hasHalf text.toList = false := by
    decide
  simp only [List.forall_mem_cons] at hFixed
  obtain ⟨hFlowName, hFlow, hClient, hMap, hChallenge, hResponses, hSession, -⟩ := hFixed
  cases call with
  | initiate parameters =>
      have hAll := hMembers
        [(("AuthFlow", .text srpFlow), Text.hasHalf srpFlow.toList),
          (("ClientId", .text clientId), Text.hasHalf clientId.toList),
          (("AuthParameters", parameters.toJson),
            parameters.texts.any fun text => Text.hasHalf text.toList)]
        (by simp [hText, hParameters])
      rw [document, Call.texts, List.any_cons]
      simpa only [List.map_cons, List.map_nil, List.any_cons, List.any_nil, hFlowName, hFlow,
        hClient, hMap, Bool.false_or, Bool.or_false] using hAll
  | respond answer =>
      have hAll (session : List String) := hMembers
        ([(("ChallengeName", .text answer.challenge), Text.hasHalf answer.challenge.toList),
          (("ClientId", .text clientId), Text.hasHalf clientId.toList),
          (("ChallengeResponses", answer.responses.toJson),
            answer.responses.texts.any fun text => Text.hasHalf text.toList)] ++
          session.map fun value => (("Session", .text value), Text.hasHalf value.toList))
        (by simp [hText, hParameters])
      simp only [List.map_append, List.map_cons, List.map_nil, List.map_map, List.any_append,
        List.any_cons, List.any_nil, List.any_map, Function.comp_def, hChallenge, hClient,
        hResponses, hSession, Bool.false_or, Bool.or_false, Bool.or_assoc] at hAll
      have hEmpty : Text.hasHalf "".toList = false := rfl
      rw [document, Call.texts, List.any_cons, List.any_cons, List.any_append]
      cases answer.session with
      | none => exact hAll []
      | some session =>
          by_cases hNone : session = ""
          · simpa only [hNone, if_true, Option.toList_some, List.any_cons, List.any_nil, hEmpty,
              Bool.or_false, List.map_nil] using hAll []
          · simpa only [hNone, if_false, Option.toList_some, List.map_cons, List.map_nil] using
              hAll [session]

theorem isWhole_document (clientId : String) (call : Call) :
    Text.isWhole (document clientId call).write = true ↔
      ∀ text ∈ call.texts clientId, Text.isWhole text = true := by
  simp only [← Text.hasHalf_eq_false_iff]
  rw [(adds_document clientId call).hasHalf_eq, List.any_eq_false]
  simp only [Bool.not_eq_true]

end Http
end ClientAuth
