import WorkerAdvisor.Signal
import WorkerAdvisor.Proofs.Pattern.Spelling

/-!
The heads of fetch handlers with one parameter.

What may follow the word `fetch` in such a head is given here by rules, one for each form: a method up to the brace
that opens its body (`Source.IsMethodHead`), and a property up to the arrow of its function (`Source.IsArrowHead`).
The result type between the parameter and the brace or arrow is any stretch without a few characters, so that it takes
in the white space around it. The two patterns of the signal spell these heads (`Source.occursIn_method_iff`,
`Source.occursIn_arrow_iff`), and the word `async` in front of a method changes nothing.
-/

set_option autoImplicit false

namespace WorkerAdvisor

namespace Source

open Pattern

/-! ### The rules -/

/-- White space, perhaps none. -/
def IsGap (run : List Char) : Prop := ∀ c ∈ run, Text.isBlank c = true

instance : DecidablePred IsGap := List.decidableBAll fun c ↦ Text.isBlank c = true

inductive IsIdentifier : List Char → Prop
  | intro {first : Char} {others : List Char} : isIdentifierStart first = true →
      (∀ c ∈ others, isIdentifierPart c = true) → IsIdentifier (first :: others)

inductive IsParameter : List Char → Prop
  | untyped {name : List Char} : IsIdentifier name → IsParameter name
  | typed {name gap gap' annotation : List Char} : IsIdentifier name → IsGap gap → IsGap gap' →
      annotation ≠ [] → (∀ c ∈ annotation, isAnnotationPart c = true) →
      IsParameter (name ++ gap ++ [':'] ++ gap' ++ annotation)

/-- One parameter in parentheses. -/
inductive IsParameterList : List Char → Prop
  | intro {gap parameter gap' : List Char} : IsGap gap → IsParameter parameter → IsGap gap' →
      IsParameterList (['('] ++ gap ++ parameter ++ gap' ++ [')'])

/-- A result type with the colon before it, or nothing. Its characters satisfy `part`. -/
inductive IsResult (part : Char → Bool) : List Char → Prop
  | untyped : IsResult part []
  | typed {type : List Char} : type ≠ [] → (∀ c ∈ type, part c = true) → IsResult part ([':'] ++ type)

/-- The head of a method with one parameter, after its name. -/
inductive IsMethodHead : List Char → Prop
  | intro {gap parameters gap' result : List Char} : IsGap gap → IsParameterList parameters → IsGap gap' →
      IsResult isMethodResultPart result → IsMethodHead (gap ++ parameters ++ gap' ++ result ++ ['\x7b'])

/-- What an arrow function may begin with before its parameter. -/
inductive IsAsync : List Char → Prop
  | absent : IsAsync []
  | present {gap : List Char} : IsGap gap → IsAsync ("async".toList ++ gap)

/-- The head of a property with an arrow function of one parameter, after its name. -/
inductive IsArrowHead : List Char → Prop
  | intro {gap gap' mark parameters gap'' result : List Char} : IsGap gap → IsGap gap' → IsAsync mark →
      (IsParameterList parameters ∨ IsIdentifier parameters) → IsGap gap'' → IsResult isArrowResultPart result →
      IsArrowHead (gap ++ [':'] ++ gap' ++ mark ++ parameters ++ gap'' ++ result ++ ['=', '>'])

/-! ### What the patterns spell -/

theorem isGap_append {first second : List Char} : IsGap (first ++ second) ↔ IsGap first ∧ IsGap second :=
  List.forall_mem_append

theorem spells_blanks : Spells blanks IsGap := .many Text.isBlank

/-- The pattern of identifiers spells the identifiers. -/
theorem spells_identifier : Spells identifier IsIdentifier := by
  refine ((Spells.single isIdentifierStart).followedBy (.many isIdentifierPart)).congr fun run ↦ ⟨?_, ?_⟩
  · rintro ⟨head, tail, rfl, ⟨c, hc, rfl⟩, htail⟩
    exact .intro hc htail
  · rintro ⟨hfirst, hothers⟩
    exact ⟨[_], _, rfl, ⟨_, hfirst, rfl⟩, hothers⟩

theorem spells_parameter : Spells parameter IsParameter := by
  refine (spells_identifier.followedBy (Spells.optional
    ((spells_blanks.followedBy ((Spells.literal ":").followedBy (spells_blanks.followedBy
      (Spells.many1 isAnnotationPart).last)))))).congr fun run ↦ ⟨?_, ?_⟩
  · rintro ⟨name, -, rfl, hname, ⟨gap, -, rfl, hgap, -, -, rfl, rfl, gap', annotation, rfl, hgap', hsome, hall⟩ | rfl⟩
    · have htyped := IsParameter.typed hname hgap hgap' hsome hall
      simpa using htyped
    · simpa using IsParameter.untyped hname
  · rintro (hname | ⟨hname, hgap, hgap', hsome, hall⟩)
    · exact ⟨run, [], by simp, hname, .inr rfl⟩
    · exact ⟨_, _, by simp, hname, .inl ⟨_, _, rfl, hgap, _, _, rfl, rfl, _, _, rfl, hgap', hsome, hall⟩⟩

/-- The pattern of a parameter list spells the lists with one parameter. -/
theorem spells_singleParameter : Spells singleParameter IsParameterList := by
  refine ((Spells.literal "(").followedBy (spells_blanks.followedBy (spells_parameter.followedBy
    (spells_blanks.followedBy (Spells.literal ")").last)))).congr fun run ↦ ⟨?_, ?_⟩
  · rintro ⟨-, -, rfl, rfl, gap, -, rfl, hgap, parameter, -, rfl, hparameter, gap', -, rfl, hgap', rfl⟩
    have hlist := IsParameterList.intro hgap hparameter hgap'
    simpa using hlist
  · rintro ⟨hgap, hparameter, hgap'⟩
    exact ⟨_, _, by simp, rfl, _, _, rfl, hgap, _, _, rfl, hparameter, _, _, rfl, hgap', rfl⟩

/-- The parenthesis of a call, perhaps after white space. -/
theorem spells_opening : Spells (sequence [blanks, literal "("]) fun run ↦ ∃ gap, run = gap ++ ['('] ∧ IsGap gap := by
  refine (spells_blanks.followedBy (Spells.literal "(").last).congr fun run ↦ ⟨?_, ?_⟩
  · rintro ⟨gap, -, rfl, hgap, rfl⟩
    exact ⟨gap, rfl, hgap⟩
  · rintro ⟨gap, rfl, hgap⟩
    exact ⟨gap, _, rfl, hgap, rfl⟩

/-- The white space around a result type may count as part of the type. -/
theorem spells_result {part : Char → Bool} (hblank : ∀ c, Text.isBlank c = true → part c = true) {stop : String} :
    Spells (sequence [blanks, optional (sequence [literal ":", blanks, many1 part]), blanks, literal stop])
      fun run ↦ ∃ gap result, run = gap ++ (result ++ stop.toList) ∧ IsGap gap ∧ IsResult part result := by
  refine (spells_blanks.followedBy ((Spells.optional ((Spells.literal ":").followedBy (spells_blanks.followedBy
    (Spells.many1 part).last))).followedBy (spells_blanks.followedBy (Spells.literal stop).last))).congr
    fun run ↦ ⟨?_, ?_⟩
  · rintro ⟨gap, -, rfl, hgap, result, -, rfl, hresult, gap'', -, rfl, hgap'', rfl⟩
    rcases hresult with ⟨-, -, rfl, rfl, gap', type, rfl, hgap', hsome, hall⟩ | rfl
    · have hpart : ∀ c ∈ gap' ++ type ++ gap'', part c = true := by
        intro c hc
        rcases List.mem_append.1 hc with hc | hc
        · rcases List.mem_append.1 hc with hc | hc
          · exact hblank c (hgap' c hc)
          · exact hall c hc
        · exact hblank c (hgap'' c hc)
      exact ⟨gap, [':'] ++ (gap' ++ type ++ gap''), by simp, hgap, .typed (by simp [hsome]) hpart⟩
    · exact ⟨gap ++ gap'', [], by simp, isGap_append.2 ⟨hgap, hgap''⟩, .untyped⟩
  · rintro ⟨gap, -, rfl, hgap, _ | ⟨hsome, hall⟩⟩
    · exact ⟨gap, _, by simp, hgap, [], _, rfl, .inr rfl, [], _, rfl, by simp [IsGap], rfl⟩
    · exact ⟨gap, _, by simp, hgap, _, _, rfl, .inl ⟨_, _, rfl, rfl, [], _, rfl, by simp [IsGap], hsome, hall⟩,
        [], _, rfl, by simp [IsGap], rfl⟩

/-- The pattern of a method, without the word `async` and its own name. -/
def methodHead : Pattern :=
  sequence [blanks, singleParameter, blanks, optional (sequence [literal ":", blanks, many1 isMethodResultPart]),
    blanks, literal "\x7b"]

/-- The pattern of a property with an arrow function, without its name. -/
def arrowHead : Pattern :=
  sequence [blanks, literal ":", blanks, optional (sequence [literal "async", blanks]),
    either singleParameter identifier, blanks,
    optional (sequence [literal ":", blanks, many1 isArrowResultPart]), blanks, literal "=>"]

/-- White space may stand in the result type of a method. -/
theorem isMethodResultPart_of_isBlank (c : Char) (hblank : Text.isBlank c = true) : isMethodResultPart c = true := by
  simp only [isMethodResultPart, Bool.and_eq_true, bne_iff_ne]
  refine ⟨⟨?_, ?_⟩, ?_⟩ <;> (rintro rfl; exact absurd hblank (by decide))

/-- White space may stand in the result type of an arrow function. -/
theorem isArrowResultPart_of_isBlank (c : Char) (hblank : Text.isBlank c = true) : isArrowResultPart c = true := by
  simp only [isArrowResultPart, Bool.and_eq_true, bne_iff_ne]
  refine ⟨?_, ?_⟩ <;> (rintro rfl; exact absurd hblank (by decide))

/-- The pattern of a method behind its name spells the heads of methods with one parameter. -/
theorem spells_methodHead : Spells methodHead IsMethodHead := by
  refine (spells_blanks.followedBy (spells_singleParameter.followedBy
    (spells_result isMethodResultPart_of_isBlank))).congr fun run ↦ ⟨?_, ?_⟩
  · rintro ⟨gap, -, rfl, hgap, parameters, -, rfl, hparameters, gap', result, rfl, hgap', hresult⟩
    have hhead := IsMethodHead.intro hgap hparameters hgap' hresult
    simpa using hhead
  · rintro @⟨gap, parameters, gap', result, hgap, hparameters, hgap', hresult⟩
    exact ⟨gap, _, by simp, hgap, parameters, _, rfl, hparameters, gap', result, rfl, hgap', hresult⟩

theorem spells_async : Spells (optional (sequence [literal "async", blanks])) IsAsync := by
  refine (Spells.optional ((Spells.literal "async").followedBy spells_blanks.last)).congr fun run ↦ ⟨?_, ?_⟩
  · rintro (⟨-, gap, rfl, rfl, hgap⟩ | rfl)
    · exact .present hgap
    · exact .absent
  · rintro (_ | hgap)
    · exact .inr rfl
    · exact .inl ⟨_, _, rfl, rfl, hgap⟩

/-- The pattern of an arrow function behind its name spells the heads of such functions with one parameter. -/
theorem spells_arrowHead : Spells arrowHead IsArrowHead := by
  refine (spells_blanks.followedBy ((Spells.literal ":").followedBy (spells_blanks.followedBy
    (spells_async.followedBy ((spells_singleParameter.either spells_identifier).followedBy
      (spells_result isArrowResultPart_of_isBlank)))))).congr fun run ↦ ⟨?_, ?_⟩
  · rintro ⟨gap, -, rfl, hgap, -, -, rfl, rfl, gap', -, rfl, hgap', mark, -, rfl, hmark, parameters, -, rfl,
      hparameters, gap'', result, rfl, hgap'', hresult⟩
    have hhead := IsArrowHead.intro hgap hgap' hmark hparameters hgap'' hresult
    simpa using hhead
  · rintro @⟨gap, gap', mark, parameters, gap'', result, hgap, hgap', hmark, hparameters, hgap'', hresult⟩
    exact ⟨gap, _, by simp, hgap, _, _, rfl, rfl, gap', _, rfl, hgap', mark, _, rfl, hmark, parameters, _, rfl,
      hparameters, gap'', result, rfl, hgap'', hresult⟩

/-! ### White space and words -/

/-- White space is never part of a word. -/
theorem isWordChar_of_isBlank {c : Char} (hblank : Text.isBlank c = true) : Text.isWordChar c = false := by
  let codes := [9, 10, 11, 12, 13, 28, 29, 30, 31, 32, 0x85, 0xA0, 0x1680, 0x2000, 0x2001, 0x2002, 0x2003, 0x2004,
    0x2005, 0x2006, 0x2007, 0x2008, 0x2009, 0x200A, 0x2028, 0x2029, 0x202F, 0x205F, 0x3000]
  have hcodes : ∀ code ∈ codes, Text.isWordChar (Char.ofNat code) = false := by decide +kernel
  have hcode : c.toNat ∈ codes := by
    simp only [Text.isBlank, Bool.or_eq_true, Bool.and_eq_true, decide_eq_true_eq, beq_iff_eq] at hblank
    simp only [codes, List.mem_cons, List.not_mem_nil, or_false]
    omega
  rw [← Char.ofNat_toNat c]
  exact hcodes c.toNat hcode

/-- White space before a character that is in no word leads into no word. -/
theorem startsWord_gap {gap : List Char} (hgap : IsGap gap) {c : Char} (hc : Text.isWordChar c = false)
    (rest : List Char) : Place.startsWord (gap ++ c :: rest) = false := by
  cases gap with
  | nil => exact hc
  | cons d gap => exact isWordChar_of_isBlank (hgap d (by simp))

/-! ### Where handlers occur -/

/-- The characters end in a word character. -/
def EndsInWord (before : List Char) : Prop := Place.startsWord before.reverse = true

instance : DecidablePred EndsInWord := fun before ↦ inferInstanceAs (Decidable (Place.startsWord before.reverse = true))

/-- Before a word character a word begins exactly if none ends there. -/
theorem atWordBoundary_iff_of_startsWord {before after : List Char} (hstart : Place.startsWord after = true) :
    Place.atWordBoundary ⟨before.reverse, after⟩ = true ↔ ¬ EndsInWord before := by
  simp [Place.atWordBoundary, hstart, EndsInWord]

theorem startsWord_append {first : List Char} (hfirst : first ≠ []) (second : List Char) :
    Place.startsWord (first ++ second) = Place.startsWord first := by
  obtain ⟨c, rest, rfl⟩ := List.exists_cons_of_ne_nil hfirst
  rfl

theorem endsInWord_concat (front : List Char) (c : Char) : EndsInWord (front ++ [c]) ↔ Text.isWordChar c = true := by
  simp [EndsInWord, Place.startsWord]

/-- Whether a text ends in a word is decided by its last part. -/
theorem endsInWord_append (first : List Char) {second : List Char} (hsecond : second ≠ []) :
    EndsInWord (first ++ second) ↔ EndsInWord second := by
  rw [EndsInWord, List.reverse_append, startsWord_append (by simpa using hsecond), EndsInWord]

/-- Where a word that nothing precedes stands before what a pattern spells. -/
theorem occursIn_wordFrom_iff {content : String} (hword : Place.startsWord content.toList = true) {rest : Pattern}
    {IsRest : List Char → Prop} (hrest : Spells rest IsRest) {code : List Char} :
    (followedBy (wordFrom content) rest).occursIn code = true ↔
      ∃ before tail after, code = before ++ content.toList ++ tail ++ after ∧ ¬ EndsInWord before ∧ IsRest tail := by
  have hsome : content.toList ≠ [] := by
    intro hnone
    simp [hnone, Place.startsWord] at hword
  have hboundary : ∀ before after : List Char,
      Place.atWordBoundary ⟨before.reverse, content.toList ++ after⟩ = true ↔ ¬ EndsInWord before :=
    fun before after ↦ atWordBoundary_iff_of_startsWord (by rwa [startsWord_append hsome])
  rw [wordFrom, wordBoundary, (Spells.literal content).occursIn_iff hrest]
  constructor
  · rintro ⟨before, -, tail, after, hcode, hholds, rfl, htail⟩
    exact ⟨before, tail, after, hcode, (hboundary before _).1 hholds, htail⟩
  · rintro ⟨before, tail, after, hcode, hbefore, htail⟩
    exact ⟨before, _, tail, after, hcode, (hboundary before _).2 hbefore, rfl, htail⟩

/-- `async` before a method does not change where it occurs. -/
theorem occursIn_method_iff {code : List Char} :
    singleParameterMethod.occursIn code = true ↔
      ∃ before head after, code = before ++ "fetch".toList ++ head ++ after ∧ ¬ EndsInWord before ∧
        IsMethodHead head := by
  rw [← occursIn_wordFrom_iff (by decide) spells_methodHead]
  exact Bool.eq_iff_iff.1 (occursIn_optional_followedBy _ _ code)

/-- An arrow function with one parameter is found where a head of one stands behind the word `fetch`. -/
theorem occursIn_arrow_iff {code : List Char} :
    singleParameterArrow.occursIn code = true ↔
      ∃ before head after, code = before ++ "fetch".toList ++ head ++ after ∧ ¬ EndsInWord before ∧
        IsArrowHead head :=
  occursIn_wordFrom_iff (by decide) spells_arrowHead

/-- A call is found where an opening parenthesis stands behind the word `fetch`, with white space between. -/
theorem occursIn_fetchCall_iff {code : List Char} :
    fetchCall.occursIn code = true ↔
      ∃ before gap after, code = before ++ "fetch".toList ++ gap ++ ['('] ++ after ∧ ¬ EndsInWord before ∧
        IsGap gap := by
  refine (occursIn_wordFrom_iff (by decide) spells_opening).trans ⟨?_, ?_⟩
  · rintro ⟨before, -, after, rfl, hbefore, gap, rfl, hgap⟩
    exact ⟨before, gap, after, by simp, hbefore, hgap⟩
  · rintro ⟨before, gap, after, rfl, hbefore, hgap⟩
    exact ⟨before, _, after, by simp, hbefore, gap, rfl, hgap⟩

end Source

end WorkerAdvisor
