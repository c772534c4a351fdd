import Mathlib.Data.List.Nodup
import ClientAuth.Exchange.Reply
import ClientAuth.Json.Equality
import ClientAuth.Proofs.Outcome

/-! Replies as they are spelled. A field has the service's name and the library's own one, and a
reply may use either for each of its fields, at both levels. Main statement: `parse_spelling`, what
a reply is read as depends on the values of its fields alone, and so does the number of mistakes
that it is refused for. -/
namespace ClientAuth

namespace Json

/-- The mistakes in a value that is to be a text or null. -/
def textMistakes : Json → Nat
  | null | text _ => 0
  | _ => 1

/-- The whole number that a value stands for. -/
def whole? : Json → Option Int
  | null => none
  | data => (Checked.int data).toOption

/-- The mistakes in a value that is to be a whole number or null. -/
def wholeMistakes : Json → Nat
  | null => 0
  | data => if (Checked.int data).isOk then 0 else 1

/-- The mistakes in a value that is to be a map of texts. Each entry counts by itself. -/
def mapMistakes : Json → Nat
  | object members => members.countP fun member => member.2.text?.isNone
  | _ => 1

/-- The texts in a map. -/
def texts : Json → Parameters
  | object members => members.map fun member => (member.1, member.2.text?.getD "")
  | _ => []

theorem lookup?_of_mem {α : Type} {members : List (String × α)} {key : String} {value : α}
    (hDistinct : (members.map (·.1)).Nodup) (h : (key, value) ∈ members) :
    lookup? key members = some value := by
  induction members with
  | nil => cases h
  | cons member members ih =>
      obtain ⟨other, held⟩ := member
      rw [List.map_cons, List.nodup_cons] at hDistinct
      rw [lookup?_cons]
      rcases List.mem_cons.mp h with hSame | hRest
      · cases hSame
        exact if_pos rfl
      · rw [if_neg, ih hDistinct.2 hRest]
        rintro rfl
        exact hDistinct.1 (List.mem_map.mpr ⟨_, hRest, rfl⟩)

theorem lookup?_eq_none {α : Type} {members : List (String × α)} {key : String}
    (h : key ∉ members.map (·.1)) : lookup? key members = none := by
  rw [lookup?, List.find?_eq_none.mpr, Option.map_none]
  intro member hMem
  rw [decide_eq_true_eq]
  rintro rfl
  exact h (List.mem_map_of_mem hMem)

end Json

namespace Checked

variable {α β : Type}

/-- A reading comes to a value if it makes no mistakes, and otherwise complains of each. -/
def Gives (result : Checked α) (mistakes : Nat) (value : α) : Prop :=
  (mistakes = 0 ∧ result = .ok value) ∨
    mistakes ≠ 0 ∧ ∃ complaints, result = .error complaints ∧ complaints.length = mistakes

theorem gives_ok (value : α) : Gives (.ok value) 0 value := .inl ⟨rfl, rfl⟩

theorem gives_refuse (mistake : Mistake) (value : α) : Gives (refuse mistake) 1 value :=
  .inr ⟨by decide, _, rfl, rfl⟩

theorem Gives.map {result : Checked α} {mistakes : Nat} {value : α}
    (h : Gives result mistakes value) (f : α → β) : Gives (result.map f) mistakes (f value) := by
  rcases h with ⟨rfl, rfl⟩ | ⟨hSome, complaints, rfl, hLength⟩
  · exact gives_ok _
  · exact .inr ⟨hSome, complaints, rfl, hLength⟩

theorem Gives.within {result : Checked α} {mistakes : Nat} {value : α}
    (h : Gives result mistakes value) (step : PathStep) :
    Gives (within step result) mistakes value := by
  rcases h with ⟨rfl, rfl⟩ | ⟨hSome, complaints, rfl, hLength⟩
  · exact gives_ok _
  · exact .inr ⟨hSome, _, rfl, by rw [List.length_map, hLength]⟩

/-- The mistakes of both sides add up. -/
theorem Gives.ap {f : Checked (α → β)} {result : Checked α} {first later : Nat} {g : α → β}
    {value : α} (hFirst : Gives f first g) (hLater : Gives result later value) :
    Gives (ap f result) (first + later) (g value) := by
  rcases hFirst with ⟨rfl, rfl⟩ | ⟨hSome, complaints, rfl, rfl⟩
  · rcases hLater with ⟨rfl, rfl⟩ | ⟨hOther, others, rfl, rfl⟩
    · exact gives_ok _
    · exact .inr ⟨by omega, others, rfl, (Nat.zero_add _).symm⟩
  · rcases hLater with ⟨rfl, rfl⟩ | ⟨hOther, others, rfl, rfl⟩
    · exact .inr ⟨hSome, complaints, rfl, rfl⟩
    · exact .inr ⟨by omega, _, rfl, List.length_append⟩

theorem gives_text (data : Json) : Gives (nullable text data) data.textMistakes data.text? := by
  cases data with
  | null => exact gives_ok _
  | text value => exact gives_ok _
  | _ => exact gives_refuse _ _

/-- What is no whole number is refused as a whole. -/
theorem int_cases (data : Json) :
    (∃ value, int data = .ok value) ∨ ∃ mistake, int data = refuse mistake := by
  cases data with
  | int value => exact .inl ⟨value, rfl⟩
  | bool value => exact .inl ⟨_, rfl⟩
  | float value =>
      rw [int]
      split
      · exact .inr ⟨_, rfl⟩
      · split
        · exact .inr ⟨_, rfl⟩
        · split
          · exact .inl ⟨_, rfl⟩
          · exact .inr ⟨_, rfl⟩
  | text value =>
      rw [int, denoted]
      split
      · rw [intOfText]
        split
        · exact .inl ⟨_, rfl⟩
        · exact .inr ⟨_, rfl⟩
        · exact .inr ⟨_, rfl⟩
      · exact .inr ⟨_, rfl⟩
  | _ => exact .inr ⟨_, rfl⟩

theorem gives_whole (data : Json) : Gives (nullable int data) data.wholeMistakes data.whole? := by
  have hNumber : Gives ((int data).map some) (if (int data).isOk then 0 else 1)
      (int data).toOption := by
    rcases int_cases data with ⟨value, h⟩ | ⟨mistake, h⟩
    · rw [h]
      exact gives_ok _
    · rw [h]
      exact gives_refuse _ _
  cases data with
  | null => exact gives_ok _
  | _ => exact hNumber

theorem gives_entries (members : List (String × Json)) :
    Gives (entries text members) (members.countP fun member => member.2.text?.isNone)
      (members.map fun member => (member.1, member.2.text?.getD "")) := by
  induction members with
  | nil => exact gives_ok _
  | cons member members ih =>
      obtain ⟨key, item⟩ := member
      have hItem : Gives (text item) (if item.text?.isNone then 1 else 0) (item.text?.getD "") := by
        cases item with
        | text value => exact gives_ok _
        | _ => exact gives_refuse _ _
      rw [List.countP_cons, Nat.add_comm, List.map_cons]
      exact ((hItem.within _).map _).ap ih

theorem gives_textMap (data : Json) : Gives (Reply.textMap data) data.mapMistakes data.texts := by
  cases data with
  | object members => exact gives_entries members
  | _ => exact gives_refuse _ _

section Optional

variable {names : List String} {members : List (String × Json)} {read : Json → Checked α}
  (default : α)

theorem gives_absent (hFound : (present? names members).map (·.2) = none) :
    Gives (optional names default read members) 0 default := by
  rw [optional, Option.map_eq_none_iff.mp hFound]
  exact gives_ok _

/-- An optional field is read from the value that is found for it, whatever name that has. -/
theorem gives_present {data : Json} {mistakes : Nat} {value : α}
    (hFound : (present? names members).map (·.2) = some data)
    (hRead : Gives (read data) mistakes value) :
    Gives (optional names default read members) mistakes value := by
  obtain ⟨⟨name, held⟩, hPresent, rfl⟩ := Option.map_eq_some_iff.mp hFound
  rw [optional, hPresent]
  exact hRead.within _

theorem gives_optional {found : Option Json} {mistakes : Json → Nat} {value : Json → α}
    (hFound : (present? names members).map (·.2) = found)
    (hRead : ∀ data, Gives (read data) (mistakes data) (value data)) :
    Gives (optional names default read members) (found.elim 0 mistakes)
      (found.elim default value) := by
  cases found with
  | none => exact gives_absent default hFound
  | some data => exact gives_present default hFound (hRead data)

end Optional

end Checked

/-- The names of the fields of an object: those of the service, and the library's own. An own name
is that of no other field. -/
structure Naming (Field : Type) where
  service : Field → String
  own : Field → String
  own_ne_service : ∀ field other, own field ≠ service other
  own_inj : ∀ field other, own field = own other → field = other

namespace Naming

variable {Field : Type} (naming : Naming Field)

/-- The value of a field. The service's name decides where it is present. -/
def value? (members : List (String × Json)) (field : Field) : Option Json :=
  (Json.lookup? (naming.service field) members).or (Json.lookup? (naming.own field) members)

/-- Members spell values of fields. Keys are distinct. A value stands under the service's name, and
then anything may stand under the library's own one; or it stands under the own name alone. A field
without a value is not there. Order is free, and so are all other keys. -/
structure Spells (assigned : Field → Option Json) (members : List (String × Json)) : Prop where
  distinct : (members.map (·.1)).Nodup
  given : ∀ field data, assigned field = some data →
    (naming.service field, data) ∈ members ∨
      naming.service field ∉ members.map (·.1) ∧ (naming.own field, data) ∈ members
  missing : ∀ field, assigned field = none →
    naming.service field ∉ members.map (·.1) ∧ naming.own field ∉ members.map (·.1)

variable {naming} {assigned : Field → Option Json} {members : List (String × Json)}

theorem Spells.value?_eq (h : naming.Spells assigned members) :
    naming.value? members = assigned := by
  funext field
  rw [value?]
  cases hField : assigned field with
  | none =>
      obtain ⟨hService, hOwn⟩ := h.missing field hField
      rw [Json.lookup?_eq_none hService, Json.lookup?_eq_none hOwn]
      rfl
  | some data =>
      rcases h.given field data hField with hService | ⟨hService, hOwn⟩
      · rw [Json.lookup?_of_mem h.distinct hService]
        rfl
      · rw [Json.lookup?_eq_none hService, Json.lookup?_of_mem h.distinct hOwn]
        rfl

theorem present?_eq (members : List (String × Json)) (field : Field) :
    (Checked.present? [naming.service field, naming.own field] members).map (·.2) =
      naming.value? members field := by
  rw [value?, Checked.present?, List.findSome?_cons, List.findSome?_cons, List.findSome?_nil]
  cases Json.lookup? (naming.service field) members with
  | some data => rfl
  | none => cases Json.lookup? (naming.own field) members <;> rfl

/-- A value under the library's own name does not count beside one under the service's. -/
theorem value?_insert_own {field : Field}
    (h : (Json.lookup? (naming.service field) members).isSome = true) (data : Json) :
    naming.value? (Json.insert (naming.own field) data members) = naming.value? members := by
  funext other
  rw [value?, value?, Json.lookup?_insert, Json.lookup?_insert,
    if_neg (naming.own_ne_service field other)]
  split
  next hSame =>
    obtain rfl := naming.own_inj field other hSame
    obtain ⟨held, hHeld⟩ := Option.isSome_iff_exists.mp h
    rw [hHeld]
    rfl
  next => rfl

theorem value?_insert_service (field other : Field) (data : Json) :
    naming.value? (Json.insert (naming.service field) data members) other =
      if naming.service field = naming.service other then some data
      else naming.value? members other := by
  rw [value?, Json.lookup?_insert, Json.lookup?_insert,
    if_neg (Ne.symm (naming.own_ne_service other field))]
  split
  next => rfl
  next => rfl

end Naming

namespace Tokens

/-- The fields of tokens. -/
inductive Field
  | accessToken
  | idToken
  | refreshToken
  | expiresIn
  | tokenType
deriving DecidableEq

/-- The names of the fields. -/
def naming : Naming Field where
  service
    | .accessToken => "AccessToken"
    | .idToken => "IdToken"
    | .refreshToken => "RefreshToken"
    | .expiresIn => "ExpiresIn"
    | .tokenType => "TokenType"
  own
    | .accessToken => "access_token"
    | .idToken => "id_token"
    | .refreshToken => "refresh_token"
    | .expiresIn => "expires_in"
    | .tokenType => "token_type"
  own_ne_service field other := by cases field <;> cases other <;> decide
  own_inj field other := by cases field <;> cases other <;> decide

/-- The mistakes in the values of the fields. -/
def mistakes (assigned : Field → Option Json) : Nat :=
  (assigned .accessToken).elim 0 Json.textMistakes + (assigned .idToken).elim 0 Json.textMistakes +
    (assigned .refreshToken).elim 0 Json.textMistakes +
    (assigned .expiresIn).elim 0 Json.wholeMistakes + (assigned .tokenType).elim 0 Json.textMistakes

/-- The tokens that the values of the fields make. -/
def ofFields (assigned : Field → Option Json) : Tokens :=
  ⟨(assigned .accessToken).elim none Json.text?, (assigned .idToken).elim none Json.text?,
    (assigned .refreshToken).elim none Json.text?, (assigned .expiresIn).elim none Json.whole?,
    (assigned .tokenType).elim none Json.text?⟩

theorem gives_ofJson (members : List (String × Json)) :
    Checked.Gives (ofJson (.object members)) (mistakes (naming.value? members))
      (ofFields (naming.value? members)) := by
  have hText (field : Field) := Checked.gives_optional none
    (naming.present?_eq members field) Checked.gives_text
  have hWhole := Checked.gives_optional none
    (naming.present?_eq members .expiresIn) Checked.gives_whole
  exact (((((hText .accessToken).map Tokens.mk).ap (hText .idToken)).ap
    (hText .refreshToken)).ap hWhole).ap (hText .tokenType)

/-- What a reply holds in the place of tokens: values of their fields, or no object. -/
inductive Content
  | fields (assigned : Field → Option Json)
  | other (data : Json) (noObject : ∀ members, data ≠ .object members)

namespace Content

/-- The ways to write a content down. -/
inductive Writes : Content → Json → Prop
  | fields {assigned : Field → Option Json} {members : List (String × Json)}
      (h : naming.Spells assigned members) : Writes (.fields assigned) (.object members)
  | other (data : Json) (noObject : ∀ members, data ≠ .object members) :
      Writes (.other data noObject) data

/-- The mistakes in a content. Null is none. -/
def mistakes : Content → Nat
  | fields assigned => Tokens.mistakes assigned
  | other .null _ => 0
  | other _ _ => 1

/-- The tokens of a content, if it has any. -/
def tokens : Content → Option Tokens
  | fields assigned => some (ofFields assigned)
  | other _ _ => none

/-- The content that a value is written for. -/
def ofJson : Json → Content
  | .object members => fields (naming.value? members)
  | .null => other .null nofun
  | .bool value => other (.bool value) nofun
  | .int value => other (.int value) nofun
  | .float value => other (.float value) nofun
  | .text value => other (.text value) nofun
  | .array items => other (.array items) nofun

theorem gives_ofJson (data : Json) :
    Checked.Gives (Checked.nullable Tokens.ofJson data) (ofJson data).mistakes
      (ofJson data).tokens := by
  cases data with
  | null => exact Checked.gives_ok _
  | object members => exact (Tokens.gives_ofJson members).map some
  | _ => exact Checked.gives_refuse _ _

theorem Writes.ofJson_eq {content : Content} {data : Json} (h : content.Writes data) :
    ofJson data = content := by
  cases h with
  | fields hSpells => rw [ofJson, hSpells.value?_eq]
  | other data noObject =>
      cases data with
      | object members => exact absurd rfl (noObject members)
      | _ => rfl

theorem map_ofJson {content : Option Content} {nested : Option Json}
    (h : Option.Rel Writes content nested) : nested.map ofJson = content := by
  cases h with
  | none => rfl
  | some hWrites => exact congrArg some hWrites.ofJson_eq

end Content
end Tokens

namespace Reply

/-- The fields of a reply. -/
inductive Field
  | challengeName
  | parameters
  | session
  | tokens
deriving DecidableEq

/-- The names of the fields. -/
def naming : Naming Field where
  service
    | .challengeName => "ChallengeName"
    | .parameters => "ChallengeParameters"
    | .session => "Session"
    | .tokens => "AuthenticationResult"
  own
    | .challengeName => "challenge_name"
    | .parameters => "challenge_parameters"
    | .session => "session"
    | .tokens => "authentication_result"
  own_ne_service field other := by cases field <;> cases other <;> decide
  own_inj field other := by cases field <;> cases other <;> decide

/-- What a reply says: a value for any of its fields. -/
structure Content where
  challengeName : Option Json
  parameters : Option Json
  session : Option Json
  tokens : Option Tokens.Content

namespace Content

variable {content : Content} {data : Json} {members : List (String × Json)}

/-- The values of the fields, the tokens being written in one way. -/
def assigned (content : Content) (nested : Option Json) : Field → Option Json
  | .challengeName => content.challengeName
  | .parameters => content.parameters
  | .session => content.session
  | .tokens => nested

/-- The ways to write a content down, at both levels. -/
inductive Writes : Content → Json → Prop
  | object {content : Content} {nested : Option Json} {members : List (String × Json)}
      (hNested : Option.Rel Tokens.Content.Writes content.tokens nested)
      (h : naming.Spells (content.assigned nested) members) : Writes content (.object members)

/-- The mistakes in the values of the fields. -/
def mistakes (content : Content) : Nat :=
  content.challengeName.elim 0 Json.textMistakes + content.parameters.elim 0 Json.mapMistakes +
    content.session.elim 0 Json.textMistakes + content.tokens.elim 0 Tokens.Content.mistakes

/-- The reply that the values of the fields make. -/
def reply (content : Content) : Reply :=
  ⟨content.challengeName.elim none Json.text?, content.parameters.elim [] Json.texts,
    content.session.elim none Json.text?, content.tokens.elim none Tokens.Content.tokens⟩

/-- The content that members are written for. -/
def ofMembers (members : List (String × Json)) : Content :=
  ⟨naming.value? members .challengeName, naming.value? members .parameters,
    naming.value? members .session,
    (naming.value? members .tokens).map Tokens.Content.ofJson⟩

theorem Writes.exists_members (h : content.Writes data) :
    ∃ members, data = .object members ∧ ofMembers members = content := by
  cases h with
  | @object nested members hNested hSpells =>
      refine ⟨members, rfl, ?_⟩
      rw [ofMembers, hSpells.value?_eq]
      exact congrArg (Content.mk _ _ _) (Tokens.Content.map_ofJson hNested)

theorem gives_ofJson (members : List (String × Json)) :
    Checked.Gives (ofJson (.object members)) (ofMembers members).mistakes
      (ofMembers members).reply := by
  have hText (field : Field) := Checked.gives_optional none
    (naming.present?_eq members field) Checked.gives_text
  have hMap := Checked.gives_optional []
    (naming.present?_eq members .parameters) Checked.gives_textMap
  have hTokens := Checked.gives_optional none
    (naming.present?_eq members .tokens) Tokens.Content.gives_ofJson
  have hAll := ((((hText .challengeName).map Reply.mk).ap hMap).ap (hText .session)).ap hTokens
  rw [mistakes, reply, ofMembers, Option.elim_map, Option.elim_map]
  exact hAll

theorem parse_object (operation : String) (members : List (String × Json)) :
    parse operation (.object members) =
      if (ofMembers members).mistakes = 0 then .ok (ofMembers members).reply
      else .error (.malformedReply operation (ofMembers members).mistakes) := by
  rcases gives_ofJson members with ⟨hNone, hRead⟩ | ⟨hSome, complaints, hRead, hLength⟩
  · rw [parse, hRead, if_pos hNone]
  · rw [parse, hRead, if_neg hSome, ← hLength]

/-- Of the tokens in a reply only what they are written for counts. -/
theorem ofMembers_insert_tokens {first second : Json}
    (h : Tokens.Content.ofJson first = Tokens.Content.ofJson second)
    (members : List (String × Json)) :
    ofMembers (Json.insert (naming.service .tokens) first members) =
      ofMembers (Json.insert (naming.service .tokens) second members) := by
  have hOther (field : Field) (hField : naming.service .tokens ≠ naming.service field) :
      naming.value? (Json.insert (naming.service .tokens) first members) field =
        naming.value? (Json.insert (naming.service .tokens) second members) field := by
    rw [Naming.value?_insert_service, Naming.value?_insert_service, if_neg hField, if_neg hField]
  have hTokens (data : Json) :
      naming.value? (Json.insert (naming.service .tokens) data members) .tokens = some data := by
    rw [Naming.value?_insert_service, if_pos rfl]
  rw [ofMembers, ofMembers, hOther .challengeName (by decide), hOther .parameters (by decide),
    hOther .session (by decide), hTokens, hTokens, Option.map_some, Option.map_some, h]

end Content

/-- The reply to either call is read off the values of its fields. It does not matter by which of
its names a field is spelled, in a reply and in its tokens, nor in which order, nor what else there
is; and beside the service's name of a field the own one does not matter. A reply without a mistake
is the one of its values, and any other is a failure that tells how many there are. -/
theorem parse_spelling (operation : String) :
    (∀ (content : Content) (first second : Json), content.Writes first → content.Writes second →
      parse operation first = parse operation second) ∧
      (∀ (content : Content) (data : Json), content.Writes data →
        (content.mistakes = 0 → parse operation data = .ok content.reply) ∧
        (content.mistakes ≠ 0 → ∃ failure, parse operation data = .error failure ∧
          failure.Is .protocol ∧
          failure.message = .text ("Malformed " ++ operation ++ " response") ∧
          failure.details.field? "errors" = some (.int content.mistakes))) ∧
      (∀ members (field : Field) data,
        (Json.lookup? (naming.service field) members).isSome = true →
        parse operation (.object (Json.insert (naming.own field) data members)) =
          parse operation (.object members)) ∧
      ∀ members nested (field : Tokens.Field) data,
        (Json.lookup? (Tokens.naming.service field) nested).isSome = true →
        parse operation (.object (Json.insert (naming.service .tokens)
            (.object (Json.insert (Tokens.naming.own field) data nested)) members)) =
          parse operation (.object (Json.insert (naming.service .tokens) (.object nested)
            members)) := by
  refine ⟨fun content first second hFirst hSecond => ?_, fun content data hWrites => ?_,
    fun members field data hService => ?_, fun members nested field data hService => ?_⟩
  · obtain ⟨members, rfl, hMembers⟩ := hFirst.exists_members
    obtain ⟨others, rfl, hOthers⟩ := hSecond.exists_members
    rw [Content.parse_object, Content.parse_object, hMembers, hOthers]
  · obtain ⟨members, rfl, rfl⟩ := hWrites.exists_members
    rw [Content.parse_object]
    refine ⟨fun hNone => if_pos hNone, fun hSome => ⟨_, if_neg hSome, ⟨rfl, rfl⟩, rfl, rfl⟩⟩
  · rw [Content.parse_object, Content.parse_object, Content.ofMembers, Content.ofMembers,
      naming.value?_insert_own hService]
  · have hTokens : Tokens.Content.ofJson (.object (Json.insert (Tokens.naming.own field) data
        nested)) = Tokens.Content.ofJson (.object nested) :=
      congrArg Tokens.Content.fields (Tokens.naming.value?_insert_own hService data)
    rw [Content.parse_object, Content.parse_object, Content.ofMembers_insert_tokens hTokens]

/-- A reply with one entry that is no text, in the service's spelling and in a mixed one. -/
theorem parse_spelling_mixed :
    let parameters : Json := .object [("SALT", .int 1), ("SRP_B", .text "b")]
    let tokens : Tokens.Field → Option Json
      | .accessToken => some (.text "t")
      | .expiresIn => some (.text "5")
      | _ => none
    let content : Content := ⟨some (.text "C"), some parameters, none, some (.fields tokens)⟩
    let first : Json := .object [("ChallengeName", .text "C"), ("ChallengeParameters", parameters),
      ("AuthenticationResult", .object [("AccessToken", .text "t"), ("ExpiresIn", .text "5")])]
    let second : Json := .object [("more", .null), ("challenge_parameters", parameters),
      ("AuthenticationResult", .object [("expires_in", .text "5"), ("AccessToken", .text "t"),
        ("access_token", .null)]), ("ChallengeName", .text "C")]
    content.Writes first ∧ content.Writes second ∧
      parse "InitiateAuth" first = parse "InitiateAuth" second ∧
      (∃ failure, parse "InitiateAuth" first = .error failure ∧ failure.Is .protocol ∧
        failure.details.field? "errors" = some (.int 1)) ∧
      parse "InitiateAuth" (.object [("Session", .text "s"), ("session", .int 0)]) =
        parse "InitiateAuth" (.object [("Session", .text "s")]) := by
  intro parameters tokens content first second
  have hNested : Tokens.naming.Spells tokens
      [("AccessToken", .text "t"), ("ExpiresIn", .text "5")] :=
    ⟨by decide, by rintro (_ | _) data ⟨⟩ <;> decide, by rintro (_ | _) ⟨⟩ <;> decide⟩
  have hMixed : Tokens.naming.Spells tokens
      [("expires_in", .text "5"), ("AccessToken", .text "t"), ("access_token", .null)] :=
    ⟨by decide, by rintro (_ | _) data ⟨⟩ <;> decide, by rintro (_ | _) ⟨⟩ <;> decide⟩
  have hFirst : content.Writes first := .object (.some (.fields hNested))
    ⟨by decide, by rintro (_ | _) data ⟨⟩ <;> decide, by rintro (_ | _) ⟨⟩; decide⟩
  have hSecond : content.Writes second := .object (.some (.fields hMixed))
    ⟨by decide, by rintro (_ | _) data ⟨⟩ <;> decide, by rintro (_ | _) ⟨⟩; decide⟩
  obtain ⟨hAlike, hRead, hOwn, -⟩ := parse_spelling "InitiateAuth"
  obtain ⟨failure, hFailure, hProtocol, -, hErrors⟩ := (hRead content first hFirst).2 (by decide)
  exact ⟨hFirst, hSecond, hAlike content first second hFirst hSecond,
    ⟨failure, hFailure, hProtocol, hErrors⟩, hOwn [("Session", .text "s")] .session (.int 0) rfl⟩

end Reply
end ClientAuth
