import Sfrpg.Lib.StringStream

/-!
`readQuotedString`: a name in double quotes, read word by word.

The loop looks for the closing quote at the end of what it has read. It puts a blank behind every
word before it looks again, and so goes on to the end of the stream.
-/

namespace Sfrpg

open Lib Lib.StringStream

namespace Utils

/-- `eof`, of a stream that something has been read from. -/
def eof : StringStream → Bool
  | none => true
  | some [] => true
  | some (_ :: _) => false

/-- The loop of `readQuotedString`, for so many passes. -/
def appendWords : ℕ → StringStream → String → Option (String × StringStream)
  | 0, _, _ => none
  | fuel + 1, l_stream, l_string =>
    if l_string.toList.getLast? = some '"' ∨ eof l_stream then some (l_string, l_stream)
    else
      let (str, l_stream) := readWord "" l_stream
      appendWords fuel l_stream (l_string ++ (str ++ " "))

/-- `readQuotedString`, of a stream that has not failed. There is no result where `at` throws. -/
def readQuotedString (unread : List Char) (l_string : String) : Option (String × StringStream) := do
  let (l_string, l_stream) := readWord l_string (some unread)
  let first ← l_string.toList.head?
  let (l_string, l_stream) ←
    if first = '"' then appendWords (size l_stream + 1) l_stream l_string
    else some (l_string, l_stream)
  some (.ofList (l_string.toList.filter (· ≠ '"')), l_stream)

/-! ### The loop -/

variable {fuel : ℕ} {l_stream : StringStream} {l_string : String}

lemma not_closed (l_string str : String) :
    (l_string ++ (str ++ " ")).toList.getLast? ≠ some '"' := by
  rw [String.toList_append, String.toList_append, ← List.append_assoc,
    show " ".toList = [' '] from rfl, List.getLast?_concat]
  decide

/-- A pass leaves less of the stream, so there are as many as there can be. What has been read stays
at the front, and the loop ends at the end of the stream unless it finds the quote at once. -/
lemma appendWords_spec (hfuel : size l_stream < fuel)
    (hquote : l_string.toList.getLast? ≠ some '"') :
    ∃ text s, appendWords fuel l_stream l_string = some (text, s) ∧ eof s = true ∧
      l_string.toList <+: text.toList := by
  induction fuel generalizing l_stream l_string with
  | zero => exact absurd hfuel (Nat.not_lt_zero _)
  | succ fuel ih =>
    rw [appendWords]
    match l_stream, hfuel with
    | none, _ => exact ⟨l_string, none, if_pos (.inr rfl), rfl, List.prefix_rfl⟩
    | some [], _ => exact ⟨l_string, some [], if_pos (.inr rfl), rfl, List.prefix_rfl⟩
    | some (c :: l), hfuel =>
      rw [if_neg (by simp [hquote, eof])]
      have hless := size_readWord_lt "" (List.cons_ne_nil c l)
      rcases hread : readWord "" (some (c :: l)) with ⟨str, s⟩
      rw [hread] at hless
      dsimp only at hless
      have hpass : size s < fuel := by
        change (c :: l).length < fuel + 1 at hfuel
        omega
      obtain ⟨text, s', heq, heof, hprefix⟩ := ih hpass (not_closed l_string str)
      refine ⟨text, s', heq, heof, List.IsPrefix.trans ?_ hprefix⟩
      rw [String.toList_append]
      exact List.prefix_append _ _

/-! ### Quoted names -/

/-- A word without blanks and quotes. -/
structure PlainWord where
  chars : List Char
  nonempty : chars ≠ []
  plain : ∀ c ∈ chars, isSpace c = false ∧ c ≠ '"'

/-- The words, with single blanks between them. -/
def sentence : List PlainWord → List Char
  | [] => []
  | [w] => w.chars
  | w :: words => w.chars ++ ' ' :: sentence words

/-- A sentence in quotes, and what follows it. -/
def quoted (words : List PlainWord) (following : List Char) : List Char :=
  '"' :: (sentence words ++ '"' :: following)

namespace PlainWord

variable (w : PlainWord)

lemma filter_chars : w.chars.filter (· ≠ '"') = w.chars :=
  List.filter_eq_self.mpr fun c hc => by simp [(w.plain c hc).2]

lemma opened : ∀ d ∈ '"' :: w.chars, isSpace d = false := by
  intro d hd
  rcases List.mem_cons.mp hd with rfl | hd
  · decide
  · exact (w.plain d hd).1

lemma opened_getLast : (String.ofList ('"' :: w.chars)).toList.getLast? ≠ some '"' := by
  rw [String.toList_ofList, List.getLast?_cons_of_ne_nil w.nonempty]
  exact fun hlast => (w.plain '"' (List.mem_of_getLast? hlast)).2 rfl

end PlainWord

lemma readQuotedString_quote {unread chars : List Char}
    (h : readWord l_string (some unread) = (.ofList ('"' :: chars), l_stream)) :
    readQuotedString unread l_string =
      (appendWords (size l_stream + 1) l_stream (.ofList ('"' :: chars))).map fun r =>
        (.ofList (r.1.toList.filter (· ≠ '"')), r.2) := by
  unfold readQuotedString
  rw [h]
  simp only [String.toList_ofList, List.head?_cons, Option.bind_eq_bind, Option.bind_some, if_true]
  cases appendWords (size l_stream + 1) l_stream (.ofList ('"' :: chars)) <;> rfl

lemma readQuotedString_one (w : PlainWord) {c : Char} (hc : isSpace c = true) (rest : List Char)
    (l_string : String) :
    readQuotedString (quoted [w] (c :: rest)) l_string =
      some (.ofList (sentence [w]), some (c :: rest)) := by
  have hread : readWord l_string (some (quoted [w] (c :: rest))) =
      (.ofList ('"' :: (w.chars ++ ['"'])), some (c :: rest)) := by
    have hquoted : quoted [w] (c :: rest) = '"' :: (w.chars ++ ['"']) ++ c :: rest := by
      simp [quoted, sentence]
    have hword : ∀ d ∈ '"' :: (w.chars ++ ['"']), isSpace d = false := by
      intro d hd
      rcases List.mem_append.mp (show d ∈ '"' :: w.chars ++ ['"'] from hd) with hd | hd
      · exact w.opened d hd
      · rw [List.mem_singleton.mp hd]
        decide
    rw [hquoted, readWord_word (List.cons_ne_nil _ _) hword l_string hc]
  have hclosed : (String.ofList ('"' :: (w.chars ++ ['"']))).toList.getLast? = some '"' := by
    rw [String.toList_ofList, ← List.cons_append, List.getLast?_concat]
  have hplain : ('"' :: (w.chars ++ ['"'])).filter (· ≠ '"') = w.chars := by
    rw [List.filter_cons_of_neg (by simp), List.filter_append, w.filter_chars]
    simp
  rw [readQuotedString_quote hread, appendWords, if_pos (.inl hclosed), Option.map_some,
    String.toList_ofList, hplain]
  rfl

lemma appendWords_second (w w' : PlainWord) (more : List Char) :
    ∃ text s, appendWords (size (some (' ' :: (w'.chars ++ more))) + 1)
        (some (' ' :: (w'.chars ++ more))) (.ofList ('"' :: w.chars)) = some (text, s) ∧
      eof s = true ∧ '"' :: w.chars ++ w'.chars <+: text.toList := by
  have hsecond : readWord "" (some (' ' :: (w'.chars ++ more))) =
      (.ofList (w'.chars ++ more.takeWhile (! isSpace ·)),
        some (more.dropWhile (! isSpace ·))) := by
    rw [readWord_blank (by decide), readWord_append w'.nonempty fun d hd => (w'.plain d hd).1]
  have hless := size_readWord_lt "" (List.cons_ne_nil ' ' (w'.chars ++ more))
  rw [hsecond] at hless
  set str := String.ofList (w'.chars ++ more.takeWhile (! isSpace ·)) with hstr
  obtain ⟨text, s, heq, heof, hprefix⟩ := appendWords_spec
    hless (not_closed (.ofList ('"' :: w.chars)) str)
  refine ⟨text, s, ?_, heof, List.IsPrefix.trans ?_ hprefix⟩
  · rw [appendWords, if_neg (not_or.mpr ⟨w.opened_getLast, by simp [eof]⟩), hsecond]
    exact heq
  · refine ⟨more.takeWhile (! isSpace ·) ++ [' '], ?_⟩
    simp [hstr, String.toList_append]

/-- **Two words or more** are not closed: the first two are run together, and the stream is read to
its end. -/
lemma readQuotedString_many (w w' : PlainWord) (words : List PlainWord) (following : List Char)
    (l_string : String) :
    ∃ text s, readQuotedString (quoted (w :: w' :: words) following) l_string = some (text, s) ∧
      eof s = true ∧ w.chars ++ w'.chars <+: text.toList := by
  obtain ⟨more, hmore⟩ : ∃ more, sentence (w' :: words) ++ '"' :: following = w'.chars ++ more := by
    cases words with
    | nil => exact ⟨_, rfl⟩
    | cons w'' words => exact ⟨_, List.append_assoc _ _ _⟩
  have hread : readWord l_string (some (quoted (w :: w' :: words) following)) =
      (.ofList ('"' :: w.chars), some (' ' :: (w'.chars ++ more))) := by
    have hquoted : quoted (w :: w' :: words) following =
        '"' :: w.chars ++ ' ' :: (w'.chars ++ more) := by
      rw [← hmore]
      simp [quoted, sentence]
    rw [hquoted, readWord_word (List.cons_ne_nil _ _) w.opened l_string (by decide)]
  obtain ⟨text, s, hloop, heof, hprefix⟩ := appendWords_second w w' more
  refine ⟨.ofList (text.toList.filter (· ≠ '"')), s, ?_, heof, ?_⟩
  · rw [readQuotedString_quote hread, hloop]
    rfl
  · have hfiltered := hprefix.filter (· ≠ '"')
    rw [List.filter_append, w'.filter_chars, List.filter_cons_of_neg (by simp), w.filter_chars]
      at hfiltered
    rw [String.toList_ofList]
    exact hfiltered

/-- **A quoted name is read back**, and what follows it left, exactly if it is one word. -/
theorem readQuotedString_iff (words : List PlainWord) (hwords : words ≠ []) {c : Char}
    (hc : isSpace c = true) (rest : List Char) (l_string : String) :
    readQuotedString (quoted words (c :: rest)) l_string =
        some (.ofList (sentence words), some (c :: rest)) ↔
      words.length = 1 := by
  match words, hwords with
  | [w], _ => exact iff_of_true (readQuotedString_one w hc rest l_string) rfl
  | w :: w' :: words, _ =>
    refine iff_of_false (fun h => ?_) (by simp)
    obtain ⟨text, s, heq, heof, -⟩ := readQuotedString_many w w' words (c :: rest) l_string
    rw [h] at heq
    cases heq
    cases heof

def ann : PlainWord := ⟨['A', 'n', 'n'], by decide, by simp [isSpace]⟩

def lee : PlainWord := ⟨['L', 'e', 'e'], by decide, by simp [isSpace]⟩

theorem readQuotedString_iff_ann :
    readQuotedString (quoted [ann] [' ', '7']) "" = some ("Ann", some [' ', '7']) :=
  (readQuotedString_iff [ann] (by decide) (c := ' ') (by decide) ['7'] "").mpr rfl

/-- Two words are run together, with what follows them. -/
theorem two_words_run_together :
    quoted [ann, lee] [' ', '7'] = "\"Ann Lee\" 7".toList ∧
      readQuotedString (quoted [ann, lee] [' ', '7']) "" = some ("AnnLee 7 ", some []) ∧
      sentence [ann, lee] = "Ann Lee".toList := by
  decide

end Utils

end Sfrpg
