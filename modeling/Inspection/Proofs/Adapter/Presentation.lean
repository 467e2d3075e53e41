import Inspection.Proofs.Adapter.Responses
import Inspection.Proofs.Text
import Mathlib.Data.List.Forall2

/-! A client reads every descriptor as the session gave it, but for counts past half of all words. -/

namespace Inspection

namespace Json

/-- A number is read from the digits that it is written in. -/
theorem digitsValue?_toString (count : Nat) :
    Text.digitsValue? (toString count).toList = some count := by
  -- A number is written in decimal digits, and in at least one of them.
  rw [Nat.toString_eq_repr, Nat.toList_repr]
  exact Text.digitsValue?_eq_some_iff.mpr ⟨Nat.toDigits_ne_nil,
    fun digit among => Nat.isDigit_of_mem_toDigits (by decide) (by decide) among,
    Nat.ofDigitChars_ten_toDigits⟩

/-- An integer is read as it was written. -/
theorem integer?_integer (amount : Int) : (integer amount).integer? = some amount := by
  cases amount with
  | ofNat count =>
    have digits := digitsValue?_toString count
    have spelled : (toString (Int.ofNat count)).toList = (toString count).toList := rfl
    simp only [integer, integer?, spelled]
    split
    · -- No number without a sign begins with one.
      rename_i rest signed
      rw [signed] at digits
      have isDigit := (Text.digitsValue?_eq_some_iff.mp digits).2.1 '-' List.mem_cons_self
      cases isDigit
    · rw [digits]
      rfl
  -- A negative number is a sign before the digits of a positive one.
  | negSucc count =>
    have digits := digitsValue?_toString (count + 1)
    have spelled : (toString (Int.negSucc count)).toList =
        '-' :: (toString (count + 1)).toList := String.toList_append
    simp only [integer, integer?, spelled, digits]
    rfl

/-- Members of other names in front do not matter. -/
theorem member?_record_append {front back : List (String × Json)} {name : String}
    (absent : ∀ member ∈ front, member.1 ≠ name) :
    (record (front ++ back)).member? name = (record back).member? name := by
  -- The induction is on the members in front, none of which is found.
  induction front with
  | nil => rfl
  | cons first rest ih =>
    obtain ⟨different, others⟩ := List.forall_mem_cons.mp absent
    have further := ih others
    simp only [record, member?] at further ⊢
    simpa [different] using further

end Json

namespace Adapter

/-- What a client reads of a count, which is written as a signed word. -/
def countRead (count : Nat) : Int := (Int64.ofNat count).toInt

/-- A count is read as it is exactly if it lies below half of all words. -/
theorem countRead_eq_iff {count : Nat} : countRead count = count ↔ count < 0x8000000000000000 := by
  -- A word reads as its number until its sign bit is set.
  rw [countRead, Int64.toInt_ofNat', Int.bmod_def]
  simp only [Int64.size]
  omega

/-- A larger count of one word is read as a negative number. -/
theorem countRead_of_large {count : Nat} (large : 0x8000000000000000 ≤ count)
    (word : count < 0x10000000000000000) :
    countRead count = count - 0x10000000000000000 := by
  -- With the sign bit set a word reads as its number less that of all words.
  rw [countRead, Int64.toInt_ofNat', Int.bmod_def]
  simp only [Int64.size]
  omega

/-- An entry shows a descriptor: its text under a key, its type, its reference and its counts. -/
structure Shows (key : String) (descriptor : Descriptor) (entry : Json) : Prop where
  value : (entry.member? key).bind Json.text? = some descriptor.value
  typeName : (entry.member? "type").map Json.text? =
    if descriptor.typeName.isEmpty then none else some (some descriptor.typeName)
  reference : (entry.member? "variablesReference").bind Json.integer? =
    some descriptor.reference.toInt
  named : (entry.member? "namedVariables").map Json.integer? =
    descriptor.namedCount.map fun count => some (countRead count)
  indexed : (entry.member? "indexedVariables").map Json.integer? =
    descriptor.indexedCount.map fun count => some (countRead count)

/-- The members that stand behind the text of a descriptor. -/
def detailNames : List String :=
  ["type", "variablesReference", "namedVariables", "indexedVariables"]

/-- An entry that begins with the text of a descriptor and goes on with its details shows it. -/
theorem shows_of_front (front : List (String × Json)) {key : String} (descriptor : Descriptor)
    (apart : ∀ member ∈ front, member.1 ∉ detailNames)
    (value : ((Json.record (front ++ detailMembers descriptor)).member? key).bind Json.text? =
      some descriptor.value) :
    Shows key descriptor (.record (front ++ detailMembers descriptor)) := by
  -- What stands in front bears none of the names of the details.
  have behind : ∀ name ∈ detailNames,
      (Json.record (front ++ detailMembers descriptor)).member? name =
        (Json.record (detailMembers descriptor)).member? name := by
    intro name detail
    apply Json.member?_record_append
    rintro member among rfl
    exact apart member among detail
  -- Each detail is looked up among the four, some of which may be missing.
  rcases descriptor with ⟨_, _, typeName, reference, indexed, named⟩
  refine ⟨value, ?_, ?_, ?_, ?_⟩
  · rw [behind "type" (by decide)]
    cases empty : typeName.isEmpty <;>
      simp [detailMembers, present, Json.record, Json.member?, Json.text, Json.text?, empty]
  · rw [behind "variablesReference" (by decide)]
    cases empty : typeName.isEmpty <;>
      simp [detailMembers, present, Json.record, Json.member?, Json.integer?_integer, empty]
  · rw [behind "namedVariables" (by decide)]
    cases empty : typeName.isEmpty <;> cases named <;>
      simp [detailMembers, present, Json.record, Json.member?, countJson, countRead,
        Json.integer?_integer, empty]
  · rw [behind "indexedVariables" (by decide)]
    cases empty : typeName.isEmpty <;> cases named <;> cases indexed <;>
      simp [detailMembers, present, Json.record, Json.member?, countJson, countRead,
        Json.integer?_integer, empty]

/-- A variable as the client sees it shows its descriptor. -/
theorem shows_variableJson (descriptor : Descriptor) :
    Shows "value" descriptor (variableJson descriptor) :=
  shows_of_front [("name", .text descriptor.name), ("value", .text descriptor.value)] descriptor
    (by simp [detailNames]) rfl

/-- A result as the client sees it shows its descriptor. -/
theorem shows_evaluationJson (descriptor : Descriptor) :
    Shows "result" descriptor (evaluationJson (.value descriptor)) :=
  shows_of_front [("result", .text descriptor.value)] descriptor (by simp [detailNames]) rfl

/-- The responses among some messages, as JSON. -/
def responses (messages : List Message) : List Json :=
  (messages.filter fun message => message.content.answered?.isSome).map Message.toJson

/-- What is said in two parts is numbered on from the first to the second. -/
theorem number_append (sent : Nat) (first second : List Content) :
    number sent (first ++ second) = number sent first ++ number (sent + first.length) second := by
  -- The induction is on what is said first, each part of which takes one number.
  induction first generalizing sent with
  | nil => rfl
  | cons content rest ih =>
    have further : sent + 1 + rest.length = sent + (rest.length + 1) := by omega
    rw [List.cons_append, number, ih, further]
    rfl

/-- Events are no responses. -/
theorem responses_of_events (sent : Nat) (events : List Event) :
    responses (number sent (events.map .event)) = [] := by
  -- The induction is on the events, each of which is left out.
  induction events generalizing sent with
  | nil => rfl
  | cons event rest ih => exact ih (sent + 1)

/-- Responses in two stretches of messages. -/
theorem responses_append (first second : List Message) :
    responses (first ++ second) = responses first ++ responses second := by
  -- Leaving out and writing down go message by message.
  rw [responses, List.filter_append, List.map_append]
  rfl

/-- A command that gets a response gets one, under the number of its request. -/
theorem responses_handle {adapter : Adapter} (request : Request) {verdict : Verdict}
    (given : (react adapter.session request.command).verdict? = some verdict) :
    ∃ sequence, responses (adapter.handle request).1 =
      [(⟨sequence, .response ⟨request.number, verdict⟩⟩ : Message).toJson] := by
  -- Whatever is told before and after the response are events.
  simp only [handle, Reaction.contents, given, number_append, responses_append,
    responses_of_events, List.append_nil, List.nil_append]
  exact ⟨_, rfl⟩

/-- A message responds to a request with a body. -/
structure Gives (message : Json) (request : Int) (body : Json) : Prop where
  request : (message.member? "request_seq").bind Json.integer? = some request
  success : message.member? "success" = some (.bool true)
  body : message.member? "body" = some body

/-- A response with a body gives it to its request. -/
theorem gives_of_success (sequence : Nat) (request : Int) (command : String) (body : Body) :
    Gives (⟨sequence, .response ⟨request, .success command (some body)⟩⟩ : Message).toJson request
      body.toJson where
  request := Json.integer?_integer request
  success := rfl
  body := rfl

/--
A client is shown the descriptors of a session, one after the other and each as it is.

The text and the reference are those of the descriptor, and a type is named unless it is empty.
A count is shown exactly where there is one, and it is read as it is below half of all words.
From there on a client reads a negative number.
-/
theorem descriptors_shown (adapter : Adapter) (number : Int) :
    (∀ reference start count, ∃ message body entries,
      responses (adapter.handle ⟨number, .listVariables reference start count⟩).1 = [message] ∧
        Gives message number body ∧ body.member? "variables" = some (.array entries) ∧
        List.Forall₂
          (fun shown entry =>
            (entry.member? "name").bind Json.text? = some shown.name ∧ Shows "value" shown entry)
          (adapter.session.listVariables reference (.ofProtocol start count)).1.descriptors
          entries) ∧
      (∀ expression frame shown,
        (adapter.session.evaluate ((frame.bind frameIndex?).getD 0) expression).1 =
          .ok (.value shown) →
        ∃ message body,
          responses (adapter.handle ⟨number, .evaluate expression frame⟩).1 = [message] ∧
            Gives message number body ∧ Shows "result" shown body) ∧
      ∀ count, (countRead count = count ↔ count < 0x8000000000000000) ∧
        (0x8000000000000000 ≤ count → count < 0x10000000000000000 →
          countRead count = count - 0x10000000000000000) := by
  refine ⟨fun reference start count => ?_, fun expression frame shown evaluated => ?_,
    fun count => ⟨countRead_eq_iff, countRead_of_large⟩⟩
  · -- Listing is always answered with success, and the body is made of the descriptors alone.
    have given : (react adapter.session (.listVariables reference start count)).verdict? =
        some (.success "variables" (some (.listing
          (adapter.session.listVariables reference (.ofProtocol start count)).1.descriptors))) :=
      rfl
    obtain ⟨sequence, only⟩ := responses_handle ⟨number, _⟩ given
    refine ⟨_, _, _, only, gives_of_success .., rfl, ?_⟩
    -- Each entry is written from the descriptor in its place.
    rw [List.forall₂_map_right_iff, List.forall₂_same]
    exact fun shown _ => ⟨rfl, shows_variableJson shown⟩
  · -- An evaluation that shows a descriptor is answered with success.
    have given : (react adapter.session (.evaluate expression frame)).verdict? =
        some (.success "evaluate" (some (.evaluation (.value shown)))) := by
      simp only [react, evaluate]
      generalize adapter.session.evaluate ((frame.bind frameIndex?).getD 0) expression = outcome
        at evaluated ⊢
      obtain ⟨answer, session⟩ := outcome
      cases evaluated
      rfl
    obtain ⟨sequence, only⟩ := responses_handle ⟨number, _⟩ given
    exact ⟨_, _, only, gives_of_success .., shows_evaluationJson shown⟩

namespace Oversized

/-- A formatter that announces half of all words for children. -/
def declaration : Declaration :=
  { Declaration.plain "bag" "Bag" with indexed := true, size := some 0x8000000000000000 }

/-- One stop at which such a bag is the only local. -/
def replay : Replay :=
  ⟨[⟨.breakpoint, [⟨"main", [⟨"v", "Bag", "[..]", .scalar, []⟩]⟩]⟩], 0⟩

/-- A conversation about the bag. -/
def adapter : Adapter :=
  start (Session.start replay ⟨[⟨"bag", .exact "Bag", declaration.formatter⟩]⟩ ⟨.unbounded, 100⟩)

/-- The descriptor of the bag. -/
def shown : Descriptor := ⟨"v", "[..]", "Bag", 0x100001, some 0x8000000000000000, none⟩

end Oversized

/-- A client reads a negative number for the children of a bag of half of all words. -/
theorem oversized_count_negative :
    (Oversized.adapter.session.evaluate 0 "v").1 = .ok (.value Oversized.shown) ∧
      ∃ message body, responses (Oversized.adapter.handle ⟨1, .evaluate "v" none⟩).1 = [message] ∧
        Gives message 1 body ∧
        (body.member? "indexedVariables").map Json.integer? =
          some (some (-0x8000000000000000)) := by
  have evaluated : (Oversized.adapter.session.evaluate 0 "v").1 = .ok (.value Oversized.shown) := by
    decide +kernel
  have given : (react Oversized.adapter.session (.evaluate "v" none)).verdict? =
      some (.success "evaluate" (some (.evaluation (.value Oversized.shown)))) := by
    decide +kernel
  -- The count is read off the only response, as of any other descriptor.
  obtain ⟨sequence, only⟩ := responses_handle ⟨1, _⟩ given
  exact ⟨evaluated, _, _, only, gives_of_success .., (shows_evaluationJson Oversized.shown).indexed⟩

end Adapter

end Inspection
