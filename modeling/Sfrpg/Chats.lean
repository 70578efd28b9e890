import Sfrpg.Accounts
import Sfrpg.Requests

/-!
Conversations read back.

The rows of `message` are the messages that were answered by `true`, in order. `getChatMessages`
looks for the first name on either side of a row, and for the second one on either side. Of two
names that differ these have to be the two sides; one name on its own may stand on either side of a
row that is somebody else's too.
-/

namespace Sfrpg

open Lib Lib.Run

/-- Sender, receiver and content. -/
abbrev MessageText := String × String × String

/-- From one of the two to the other. -/
def Between (a b : String) (m : MessageText) : Prop :=
  (m.1 = a ∧ m.2.1 = b) ∨ (m.1 = b ∧ m.2.1 = a)

instance decidableBetween (a b : String) (m : MessageText) : Decidable (Between a b m) :=
  inferInstanceAs (Decidable (_ ∨ _))

namespace Past

/-- The message of a call, if it is answered by `true`. -/
def sentBy (hash : String → ℕ) (p : Past) (c : Bool × Write) : List MessageText :=
  match c.2 with
  | .registerUser _ _ _ => []
  | .addMessage sender receiver content =>
    if (write hash p.tables c).2 then [(sender, receiver, content)] else []

/-- The messages that a history of calls has sent. -/
def sent (hash : String → ℕ) (p : Past) : List (Bool × Write) → List MessageText
  | [] => []
  | c :: cs => p.sentBy hash c ++ sent hash (p.step hash c) cs

variable {hash : String → ℕ} {p : Past}

/-! ### What is stored -/

lemma step_message (hash : String → ℕ) (p : Past) (c : Bool × Write) :
    (p.step hash c).tables.message.map Site.texts =
      p.tables.message.map Site.texts ++ p.sentBy hash c := by
  obtain ⟨throws, c⟩ := c
  cases c with
  | registerUser email username password =>
    obtain ⟨-, heq⟩ | ⟨-, t, row, heq, -, -, -, -, hmessage, -⟩ :=
      p.tables.registerUser_cases hash throws email username password
    · simp [step, write, sentBy, heq]
    · simp [step, write, sentBy, heq, hmessage]
  | addMessage sender receiver content =>
    obtain ⟨-, heq⟩ | ⟨-, t, row, heq, rfl, rfl, rfl, hmessage, -, -⟩ :=
      p.tables.addMessage_cases throws sender receiver content
    · simp [step, write, sentBy, heq]
    · simp [step, write, sentBy, heq, hmessage, Site.texts]

/-- **The table is the history** of the messages that were sent. -/
lemma run_message (hash : String → ℕ) (p : Past) (cs : List (Bool × Write)) :
    (run (step hash) p cs).tables.message.map Site.texts =
      p.tables.message.map Site.texts ++ p.sent hash cs := by
  induction cs generalizing p with
  | nil => simp [sent, run]
  | cons c cs ih =>
    rw [run, List.foldl_cons, ← run, ih, step_message, sent, List.append_assoc]

end Past

/-! ### What is read -/

/-- The `WHERE` clause of `getChatMessages`. -/
def Selected (a b : String) (m : MessageText) : Prop :=
  (m.1 = a ∨ m.2.1 = a) ∧ (m.1 = b ∨ m.2.1 = b)

instance decidableSelected (a b : String) (m : MessageText) : Decidable (Selected a b m) :=
  inferInstanceAs (Decidable (_ ∧ _))

lemma selected_iff {a b : String} (h : a ≠ b) (m : MessageText) :
    Selected a b m ↔ Between a b m := by
  constructor
  · rintro ⟨rfl | rfl, hb | hb⟩
    · exact absurd hb h
    · exact .inl ⟨rfl, hb⟩
    · exact .inr ⟨hb, rfl⟩
    · exact absurd hb h
  · rintro (⟨hs, hr⟩ | ⟨hs, hr⟩)
    · exact ⟨.inl hs, .inr hr⟩
    · exact ⟨.inr hr, .inl hs⟩

lemma selected_self {a : String} (m : MessageText) :
    (Selected a a m ↔ Between a a m) ↔ (m.1 = a ↔ m.2.1 = a) := by
  unfold Selected Between
  tauto

/-- The two clauses select the same rows of a table exactly if the names differ, or nobody else
stands on a row with the one. -/
lemma filter_selected_iff {a b : String} {ms : List MessageText} :
    ms.filter (Selected a b) = ms.filter (Between a b) ↔
      (a = b → ∀ m ∈ ms, (m.1 = a ↔ m.2.1 = a)) := by
  have hmem : ms.filter (Selected a b) = ms.filter (Between a b) ↔
      ∀ m ∈ ms, (Selected a b m ↔ Between a b m) := by
    refine ⟨fun h m hm => ?_, fun h => List.filter_congr fun m hm => decide_eq_decide.mpr (h m hm)⟩
    have hiff : m ∈ ms.filter (Selected a b) ↔ m ∈ ms.filter (Between a b) := by rw [h]
    simpa [hm] using hiff
  rw [hmem]
  constructor
  · rintro h rfl m hm
    exact (selected_self m).mp (h m hm)
  · intro h m hm
    by_cases hab : a = b
    · subst hab
      exact (selected_self m).mpr (h rfl m hm)
    · exact selected_iff hab m

lemma selected_comm (a b : String) (m : MessageText) : Selected a b m ↔ Selected b a m := and_comm

namespace Tables

variable (hash : String → ℕ) (throws : Bool) (t : Tables)

lemma getChatMessages_eq (a b : String) :
    (t.database hash throws).getChatMessages a b =
      if throws = false ∧ DbText.Fits a ∧ DbText.Fits b then
        some ((t.message.map Site.texts).filter (Selected a b)) else none := by
  change Database.fetch (attempt throws (t.selectChat a a b b)) = _
  cases throws with
  | true => rfl
  | false =>
    change Database.fetch (t.selectChat a a b b) = _
    rw [selectChat]
    cases ha : DbText.bind a with
    | none =>
      exact (if_neg fun h => DbText.bind_eq_none.mp ha h.2.1).symm
    | some x =>
      cases hb : DbText.bind b with
      | none =>
        exact (if_neg fun h => DbText.bind_eq_none.mp hb h.2.2).symm
      | some y =>
        obtain rfl := DbText.bind_text ha
        obtain rfl := DbText.bind_text hb
        rw [if_pos ⟨rfl, x.fits_text, y.fits_text⟩]
        have hfetch : Database.fetch (some (t.selectRows fun r => Names x x r && Names y y r)) =
            some ((t.message.filter fun r => Names x x r && Names y y r).map Site.texts) := by
          rw [Database.fetch, selectRows, Option.map_some, List.map_map]
          rfl
        refine hfetch.trans ?_
        rw [List.filter_map]
        congr 2
        refine List.filter_congr fun r _ => ?_
        rw [Bool.eq_iff_iff, Bool.and_eq_true, Site.names_iff, Site.names_iff, Function.comp,
          decide_eq_true_iff]
        rfl

end Tables

namespace Past

variable {hash : String → ℕ}

/-- **A conversation is what the two have written to each other**, whichever name comes first,
exactly if SQLite throws at neither statement and can hold the names, and the names differ or
whoever has the one name has written to nobody else and has been written to by nobody else. For
every history of calls. -/
theorem chat_iff (hash : String → ℕ) (cs : List (Bool × Write)) (throws throws' : Bool)
    (a b : String) :
    (((run (step hash) start cs).tables.database hash throws).getChatMessages a b =
        some ((start.sent hash cs).filter (Between a b)) ∧
      ((run (step hash) start cs).tables.database hash throws').getChatMessages b a =
        ((run (step hash) start cs).tables.database hash throws).getChatMessages a b) ↔
      ((throws = false ∧ throws' = false) ∧ DbText.Fits a ∧ DbText.Fits b) ∧
        (a = b → ∀ m ∈ start.sent hash cs, (m.1 = a ↔ m.2.1 = a)) := by
  have hmessage : (run (step hash) start cs).tables.message.map Site.texts = start.sent hash cs :=
    run_message hash start cs
  rw [Tables.getChatMessages_eq, Tables.getChatMessages_eq, hmessage]
  by_cases hl : throws = false ∧ DbText.Fits a ∧ DbText.Fits b
  · obtain ⟨hthrows, ha, hb⟩ := hl
    rw [if_pos ⟨hthrows, ha, hb⟩, Option.some.injEq, filter_selected_iff]
    by_cases hthrows' : throws' = false
    · have hcomm : (start.sent hash cs).filter (Selected b a) =
          (start.sent hash cs).filter (Selected a b) :=
        List.filter_congr fun m _ => decide_eq_decide.mpr (selected_comm b a m)
      rw [if_pos ⟨hthrows', hb, ha⟩, hcomm]
      simp [hthrows, hthrows', ha, hb]
    · rw [if_neg fun h => hthrows' h.1]
      simp [hthrows']
  · rw [if_neg hl]
    refine iff_of_false (fun h => nomatch h.1) fun h => hl ⟨h.1.1.1, h.1.2⟩

/-- Asked for what she has written to herself, ann reads what she has written to bob. -/
theorem alone_reads_others :
    start.sent String.length [(false, .addMessage "ann" "bob" "hi")] = [("ann", "bob", "hi")] ∧
    ((run (step String.length) start [(false, .addMessage "ann" "bob" "hi")]).tables.database
      String.length false).getChatMessages "ann" "ann" = some [("ann", "bob", "hi")] ∧
    ¬ Between "ann" "ann" ("ann", "bob", "hi") := by
  decide

end Past

end Sfrpg
