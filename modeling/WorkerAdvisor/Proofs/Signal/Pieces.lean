import Mathlib.Data.List.Infix
import Mathlib.Data.List.SplitBy
import WorkerAdvisor.Proofs.Signal.Handler

/-!
The pieces of a text.

One pass over a text cuts it into its words, which are the longest runs of word characters, and all other characters one
by one (`Source.pieces`). Two texts without a word that goes on from one into the other are cut apart from each other
(`Source.pieces_append`), and a text is never cut within a word (`Source.parted_of_pieces`). Hence the pieces of a stretch
stand side by side among those of a text exactly if the stretch is somewhere in the text and no word crosses its ends
(`Source.pieces_infix_iff`), and the words among the pieces are the runs that nothing makes longer
(`Source.mem_words_iff`).
-/

set_option autoImplicit false

namespace WorkerAdvisor

namespace Source

open Pattern

/-! ### Pieces -/

/-- Whether two characters that stand side by side are in the same word. -/
def isJoined (c d : Char) : Bool := Text.isWordChar c && Text.isWordChar d

/-- The pieces of a text: its words, and the characters between them one by one. -/
def pieces (text : List Char) : List (List Char) := text.splitBy isJoined

/-- The words among the pieces of a text. -/
def words (text : List Char) : List (List Char) := (pieces text).filter Place.startsWord

/-- The characters of a run, one by one. -/
def oneByOne (run : List Char) : List (List Char) := run.map fun c ↦ [c]

/-- A run of word characters. -/
structure IsWord (word : List Char) : Prop where
  ne_nil : word ≠ []
  all : ∀ c ∈ word, Text.isWordChar c = true

instance : DecidablePred IsWord := fun word ↦
  decidable_of_iff (word ≠ [] ∧ word.all Text.isWordChar = true)
    ⟨fun hword ↦ ⟨hword.1, List.all_eq_true.1 hword.2⟩, fun hword ↦ ⟨hword.ne_nil, List.all_eq_true.2 hword.all⟩⟩

/-- No word goes on from one text into the next one. -/
def Parted (first second : List Char) : Prop := EndsInWord first → Place.startsWord second = false

/-- Two texts are parted if their characters at the cut are not in the same word. -/
theorem parted_iff {first second : List Char} :
    Parted first second ↔ ∀ c ∈ first.getLast?, ∀ d ∈ second.head?, isJoined c d = false := by
  rcases List.eq_nil_or_concat first with rfl | ⟨front, c, rfl⟩
  · simp [Parted, EndsInWord, Place.startsWord]
  · cases second with
    | nil => simp [Parted, Place.startsWord]
    | cons d second =>
      rw [List.concat_eq_append, Parted, endsInWord_concat]
      simp [isJoined, Place.startsWord]

/-- The pieces of parted texts are the pieces of the first and then those of the second. -/
theorem pieces_append {first second : List Char} (hparted : Parted first second) :
    pieces (first ++ second) = pieces first ++ pieces second :=
  List.splitBy_append (parted_iff.1 hparted)

/-- Where the pieces of a text are divided, no word is. -/
theorem parted_of_pieces {text : List Char} {first second : List (List Char)} (hpieces : pieces text = first ++ second) :
    Parted first.flatten second.flatten := by
  rcases List.eq_nil_or_concat first with rfl | ⟨front, last, hfirst⟩
  · intro hend
    simp [EndsInWord, Place.startsWord] at hend
  · rcases second with _ | ⟨next, rest⟩
    · exact fun _ ↦ rfl
    · -- Neither of the two pieces at the division is empty, and their ends there are not joined.
      rw [List.concat_eq_append] at hfirst
      subst hfirst
      have hdivided : pieces text = front ++ last :: next :: rest := by simpa using hpieces
      have hchain := List.isChain_getLast_head_splitBy isJoined text
      change (pieces text).IsChain _ at hchain
      rw [hdivided, List.isChain_append_cons_cons] at hchain
      obtain ⟨-, ⟨hlast, hnext, hjoined⟩, -⟩ := hchain
      have hbefore : EndsInWord (front ++ [last]).flatten ↔ Text.isWordChar (last.getLast hlast) = true := by
        rw [List.flatten_append, List.flatten_singleton, endsInWord_append _ hlast]
        conv_lhs => rw [← List.dropLast_concat_getLast hlast]
        exact endsInWord_concat _ _
      have hafter : Place.startsWord (next :: rest).flatten = Text.isWordChar (next.head hnext) := by
        rw [List.flatten_cons, startsWord_append hnext]
        conv_lhs => rw [← List.cons_head_tail hnext]
        rfl
      intro hend
      rw [hafter]
      simpa [isJoined, hbefore.1 hend] using hjoined

/-- The pieces of a text make up the text. -/
theorem flatten_pieces (text : List Char) : (pieces text).flatten = text := List.flatten_splitBy isJoined text

theorem Parted.of_append_right {first second third : List Char} (hparted : Parted first (second ++ third)) :
    Parted first second := by
  intro hend
  rcases second with _ | ⟨c, second⟩
  · rfl
  · exact hparted hend

theorem Parted.append_right {first second : List Char} (hparted : Parted first second) (hsecond : second ≠ [])
    (third : List Char) : Parted first (second ++ third) := by
  intro hend
  rw [startsWord_append hsecond]
  exact hparted hend

theorem Parted.of_append_left {first second third : List Char} (hparted : Parted (first ++ second) third) :
    Parted second third := by
  intro hend
  rcases List.eq_nil_or_concat second with rfl | ⟨front, c, rfl⟩
  · simp [EndsInWord, Place.startsWord] at hend
  · exact hparted ((endsInWord_append first (by simp)).2 hend)

/-- The pieces of a stretch are among those of a text if no word crosses the ends of the stretch. -/
theorem pieces_infix_iff {run text : List Char} :
    pieces run <:+: pieces text ↔
      ∃ before after, text = before ++ run ++ after ∧ Parted before run ∧ Parted run after := by
  constructor
  · rintro ⟨front, back, hpieces⟩
    have htext : text = front.flatten ++ run ++ back.flatten := by
      rw [← flatten_pieces text, ← hpieces, List.flatten_append, List.flatten_append, flatten_pieces]
    have hbefore := parted_of_pieces (hpieces.symm.trans (List.append_assoc _ _ _))
    have hafter := parted_of_pieces hpieces.symm
    rw [List.flatten_append, flatten_pieces] at hbefore hafter
    exact ⟨front.flatten, back.flatten, htext, hbefore.of_append_right, hafter.of_append_left⟩
  · rintro ⟨before, after, rfl, hbefore, hafter⟩
    rcases eq_or_ne run [] with rfl | hsome
    · exact List.nil_infix
    · rw [List.append_assoc, pieces_append (hbefore.append_right hsome after), pieces_append hafter]
      exact ⟨pieces before, pieces after, List.append_assoc _ _ _⟩

/-! ### Pieces of a phrase -/

theorem IsWord.startsWord {word : List Char} (hword : IsWord word) : Place.startsWord word = true := by
  obtain ⟨c, rest, rfl⟩ := List.exists_cons_of_ne_nil hword.ne_nil
  exact hword.all c (by simp)

theorem IsWord.endsInWord {word : List Char} (hword : IsWord word) : EndsInWord word := by
  rcases List.eq_nil_or_concat word with rfl | ⟨front, c, rfl⟩
  · exact absurd rfl hword.ne_nil
  · rw [List.concat_eq_append, endsInWord_concat]
    exact hword.all c (by simp)

/-- A word is one piece. -/
theorem pieces_of_isWord {word : List Char} (hword : IsWord word) : pieces word = [word] := by
  refine List.splitBy_of_isChain hword.ne_nil (List.Pairwise.isChain ?_)
  refine List.pairwise_of_forall_mem_list fun c hc d hd ↦ ?_
  simp [isJoined, hword.all c hc, hword.all d hd]

/-- A piece that begins with a word character is a word. -/
theorem isWord_of_mem_pieces {piece text : List Char} (hpiece : piece ∈ pieces text)
    (hstart : Place.startsWord piece = true) : IsWord piece := by
  have hchain := List.isChain_of_mem_splitBy hpiece
  refine ⟨List.ne_nil_of_mem_splitBy hpiece, ?_⟩
  clear hpiece
  induction piece with
  | nil => simp
  | cons c rest ih =>
    have hc : Text.isWordChar c = true := hstart
    cases rest with
    | nil => simpa using hc
    | cons d rest =>
      rw [List.isChain_cons_cons, isJoined, Bool.and_eq_true] at hchain
      exact List.forall_mem_cons.2 ⟨hc, ih hchain.1.2 hchain.2⟩

/-- A word before something else is a piece by itself. -/
theorem pieces_word_append {word rest : List Char} (hword : IsWord word) (hrest : Place.startsWord rest = false) :
    pieces (word ++ rest) = word :: pieces rest := by
  rw [pieces_append fun _ ↦ hrest, pieces_of_isWord hword]
  rfl

/-- Other characters than word characters are pieces one by one. -/
theorem pieces_others_append {run : List Char} (hrun : ∀ c ∈ run, Text.isWordChar c = false) (rest : List Char) :
    pieces (run ++ rest) = oneByOne run ++ pieces rest := by
  induction run with
  | nil => rfl
  | cons c run ih =>
    have hc : Text.isWordChar c = false := hrun c (by simp)
    have hparted : Parted [c] (run ++ rest) := by
      intro hend
      simp [EndsInWord, Place.startsWord, hc] at hend
    rw [List.cons_append, ← List.singleton_append, pieces_append hparted, ih fun d hd ↦ hrun d (by simp [hd])]
    rfl

/-! ### Words -/

/-- The words of a text are its longest runs of word characters. -/
theorem mem_words_iff {word text : List Char} :
    word ∈ words text ↔
      ∃ before after, text = before ++ word ++ after ∧ IsWord word ∧ ¬ EndsInWord before ∧
        Place.startsWord after = false := by
  have hbeside : ∀ hword : IsWord word, word ∈ pieces text ↔
      ∃ before after, text = before ++ word ++ after ∧ Parted before word ∧ Parted word after := by
    intro hword
    rw [← List.singleton_infix_iff, ← pieces_of_isWord hword, pieces_infix_iff]
  rw [words, List.mem_filter]
  constructor
  · rintro ⟨hpiece, hstart⟩
    have hword := isWord_of_mem_pieces hpiece hstart
    obtain ⟨before, after, htext, hbefore, hafter⟩ := (hbeside hword).1 hpiece
    refine ⟨before, after, htext, hword, fun hend ↦ ?_, hafter hword.endsInWord⟩
    simpa [hstart] using hbefore hend
  · rintro ⟨before, after, htext, hword, hbefore, hafter⟩
    exact ⟨(hbeside hword).2 ⟨before, after, htext, fun hend ↦ absurd hend hbefore, fun _ ↦ hafter⟩, hword.startsWord⟩

/-- Letters, digits and underscores are joined, dollar signs are not. -/
example : words "read_1$Sync (x)".toList = ["read_1", "Sync", "x"].map String.toList := by decide

end Source

end WorkerAdvisor
