import Sfrpg.Tables

/-!
Accounts: what any history of `registerUser` and `addMessage` leaves in the database.

The rows of `user` are the registrations that succeeded, and their emails are unique, so
`authenticateUser` finds the one registration of an email. Where there is none, it returns nothing.

The rows of `message` refer to users by the schema alone. The connection never enforces it.
-/

namespace Sfrpg

open Lib Lib.Run Lib.Table

/-- A call that writes to the database. -/
inductive Write
  | registerUser (email username password : String)
  | addMessage (sender receiver content : String)

structure Registration where
  email : String
  username : String
  password : String

/-- The tables, and the registrations so far that were answered by `true`. -/
structure Past where
  tables : Tables
  registered : List Registration

namespace Past

section Definitions

variable (hash : String → ℕ)

def start : Past := ⟨.initDatabase .fresh, []⟩

/-- A call, with whether SQLite throws at it for a reason of its own. -/
def write (t : Tables) : Bool × Write → Tables × Bool
  | (throws, .registerUser email username password) =>
    t.registerUser hash throws email username password
  | (throws, .addMessage sender receiver content) => t.addMessage throws sender receiver content

def step (p : Past) (c : Bool × Write) : Past where
  tables := (write hash p.tables c).1
  registered := match c.2 with
    | .registerUser email username password =>
      if (write hash p.tables c).2 then p.registered ++ [⟨email, username, password⟩]
      else p.registered
    | .addMessage _ _ _ => p.registered

/-- The row of a registration. -/
structure Stores (g : Registration) (r : UserRow) : Prop where
  email : r.email.text = g.email
  username : r.username.text = g.username
  password : r.password.text = toString (hash g.password)

/-- The rows of `user` are the successful registrations. -/
structure Records (p : Past) : Prop where
  stored : ∀ g ∈ p.registered, ∃ r ∈ p.tables.user, Stores hash g r
  registered : ∀ r ∈ p.tables.user, ∃ g ∈ p.registered, Stores hash g r

end Definitions

variable {hash : String → ℕ} {p : Past}

/-! ### What a call does -/

/-- **A call stores its row, or nothing.** -/
lemma step_cases (hash : String → ℕ) (p : Past) (c : Bool × Write) :
    (p.step hash c = p ∧ ∀ sender receiver content, c.2 = .addMessage sender receiver content →
      c.1 = true ∨ p.tables.RefusesMessage sender receiver content) ∨
    (∃ g row, c.2 = .registerUser g.email g.username g.password ∧ Stores hash g row ∧
      (p.step hash c).registered = p.registered ++ [g] ∧
      (p.step hash c).tables.user = p.tables.user ++ [row] ∧
      (p.step hash c).tables.message = p.tables.message ∧
      (p.step hash c).tables.foreignKeys = p.tables.foreignKeys) ∨
    (∃ row, c = (false, .addMessage row.sender.text row.receiver.text row.content.text) ∧
      ¬ p.tables.RefusesMessage row.sender.text row.receiver.text row.content.text ∧
      (p.step hash c).registered = p.registered ∧
      (p.step hash c).tables.message = p.tables.message ++ [row] ∧
      (p.step hash c).tables.user = p.tables.user ∧
      (p.step hash c).tables.foreignKeys = p.tables.foreignKeys) := by
  obtain ⟨throws, c⟩ := c
  cases c with
  | registerUser email username password =>
    obtain ⟨-, heq⟩ | ⟨-, t, row, heq, he, hu, hp, huser, hmessage, hkeys⟩ :=
      p.tables.registerUser_cases hash throws email username password
    · refine .inl ⟨?_, fun _ _ _ h => by cases h⟩
      simp only [step, write, heq, Bool.false_eq_true, if_false]
    · refine .inr (.inl ⟨⟨email, username, password⟩, row, rfl, ⟨he, hu, hp⟩, ?_⟩)
      simp only [step, write, heq, if_true]
      exact ⟨trivial, huser, hmessage, hkeys⟩
  | addMessage sender receiver content =>
    obtain ⟨href, heq⟩ | ⟨⟨rfl, href⟩, t, row, heq, rfl, rfl, rfl, hmessage, huser, hkeys⟩ :=
      p.tables.addMessage_cases throws sender receiver content
    · refine .inl ⟨?_, fun s r x h => ?_⟩
      · simp only [step, write, heq]
      · cases h
        exact href
    · refine .inr (.inr ⟨row, rfl, href, rfl, ?_⟩)
      simp only [step, write, heq]
      exact ⟨hmessage, huser, hkeys⟩

lemma start_records : Records hash start := ⟨List.forall_mem_nil _, List.forall_mem_nil _⟩

lemma Records.step (h : Records hash p) (c : Bool × Write) : Records hash (p.step hash c) := by
  obtain ⟨heq, -⟩ | ⟨g, row, -, hrow, hreg, huser, -, -⟩ | ⟨row, -, -, hreg, -, huser, -⟩ :=
    step_cases hash p c
  · rwa [heq]
  · refine ⟨fun x hx => ?_, fun r hr => ?_⟩
    · rw [hreg] at hx
      rw [huser]
      rcases List.mem_append.mp hx with hx | hx
      · obtain ⟨r, hr, hs⟩ := h.stored x hx
        exact ⟨r, by simp [hr], hs⟩
      · rw [List.mem_singleton.mp hx]
        exact ⟨row, by simp, hrow⟩
    · rw [huser] at hr
      rw [hreg]
      rcases List.mem_append.mp hr with hr | hr
      · obtain ⟨x, hx, hs⟩ := h.registered r hr
        exact ⟨x, by simp [hx], hs⟩
      · rw [List.mem_singleton.mp hr]
        exact ⟨g, by simp, hrow⟩
  · exact ⟨by rw [hreg, huser]; exact h.stored, by rw [hreg, huser]; exact h.registered⟩

lemma records_run (hash : String → ℕ) (cs : List (Bool × Write)) :
    Records hash (run (step hash) start cs) :=
  run_inv_all (fun _ c h => h.step c) cs start_records

/-! ### Authentication -/

/-- The answer to a login, and what it leaves in the variable of the name. -/
structure Authenticates (hash : String → ℕ) (p : Past) (email password name : String)
    (answer : Bool × String) : Prop where
  known : answer.1 = true ↔ ∃ g ∈ p.registered, g.email = email ∧
    toString (hash g.password) = toString (hash password)
  named : ∀ g ∈ p.registered, g.email = email →
    toString (hash g.password) = toString (hash password) → answer.2 = g.username
  untouched : answer.1 = false → answer.2 = name

/-- The email was registered with a password of this hash. -/
def Matches (hash : String → ℕ) (p : Past) (email password : String) : Prop :=
  ∃ g ∈ p.registered, g.email = email ∧ toString (hash g.password) = toString (hash password)

lemma authenticates_false {email password name : String} :
    Authenticates hash p email password name (false, name) ↔ ¬ Matches hash p email password := by
  constructor
  · intro h hm
    exact absurd (h.known.mpr hm) (by simp)
  · intro h
    refine ⟨?_, fun g hg he hp => absurd ⟨g, hg, he, hp⟩ h, fun _ => rfl⟩
    exact iff_of_false (by simp) h

lemma Records.authenticates (h : Records hash p) {r : UserRow} (hr : r ∈ p.tables.user)
    (password name : String) :
    Authenticates hash p r.email.text password name
      (decide (r.password.text = toString (hash password)),
        if r.password.text = toString (hash password) then r.username.text else name) := by
  have hunique : ∀ g ∈ p.registered, g.email = r.email.text → Stores hash g r := by
    intro g hg he
    obtain ⟨x, hx, hs⟩ := h.stored g hg
    have hxr : x = r := List.inj_on_of_nodup_map p.tables.uniqueEmail hx hr (hs.email.trans he)
    exact hxr ▸ hs
  obtain ⟨g, hg, hs⟩ := h.registered r hr
  refine ⟨?_, fun x hx he hp => ?_, fun hfalse => ?_⟩
  · rw [decide_eq_true_eq]
    constructor
    · intro hp
      exact ⟨g, hg, hs.email.symm, hs.password.symm.trans hp⟩
    · rintro ⟨x, hx, he, hp⟩
      exact (hunique x hx he).password.trans hp
  · have hx' := hunique x hx he
    rw [if_pos (hx'.password.trans hp)]
    exact hx'.username
  · exact if_neg (of_decide_eq_false hfalse)

lemma answered_of_throw {throws : Bool} {email password name : String}
    (hnone : (p.tables.database hash throws).selectUser email = none) :
    (∃ answer, (p.tables.database hash throws).authenticateUser email password name = some answer ∧
      Authenticates hash p email password name answer) ↔ ¬ Matches hash p email password := by
  rw [Database.authenticateUser, hnone]
  simp only [Option.some.injEq, exists_eq_left']
  exact authenticates_false

lemma Records.answered (h : Records hash p) {email password name : String}
    (hquery : (p.tables.database hash false).selectUser email = some
      ((select (fun r => r.email.text) email p.tables.user).map
        fun r => (r.password, r.username))) :
    (∃ answer, (p.tables.database hash false).authenticateUser email password name = some answer ∧
      Authenticates hash p email password name answer) ↔ ∃ g ∈ p.registered, g.email = email := by
  cases hselect : select (fun r : UserRow => r.email.text) email p.tables.user with
  | none =>
    rw [hselect] at hquery
    refine iff_of_false ?_ ?_
    · rw [(Database.authenticateUser_eq_none _ _ _ _).mpr hquery]
      rintro ⟨answer, hsome, -⟩
      cases hsome
    · rintro ⟨g, hg, he⟩
      obtain ⟨r, hr, hs⟩ := h.stored g hg
      exact select_eq_none.mp hselect ⟨r, hr, hs.email.trans he⟩
  | some r =>
    rw [hselect] at hquery
    obtain ⟨hr, he⟩ := mem_of_select hselect
    refine iff_of_true ⟨_, ?_, he ▸ h.authenticates hr password name⟩ ?_
    · rw [Database.authenticateUser, hquery]
      rfl
    · obtain ⟨g, hg, hs⟩ := h.registered r hr
      exact ⟨g, hg, hs.email.symm.trans he⟩

/-- **When a login is answered.** After any calls of `registerUser` and `addMessage`,
`authenticateUser` returns what the registrations say if and only if SQLite throws at the query and
no registration matches, or it does not and the email is that of a registration. -/
theorem authenticates_iff (hash : String → ℕ) (cs : List (Bool × Write)) (throws : Bool)
    (l_email l_password l_username : String) :
    (∃ answer, ((run (step hash) start cs).tables.database hash throws).authenticateUser l_email
        l_password l_username = some answer ∧
      Authenticates hash (run (step hash) start cs) l_email l_password l_username answer) ↔
    if throws = true ∨ ¬ DbText.Fits l_email
    then ¬ Matches hash (run (step hash) start cs) l_email l_password
    else ∃ g ∈ (run (step hash) start cs).registered, g.email = l_email := by
  have hrec := records_run hash cs
  set p := run (step hash) start cs
  obtain ⟨rfl, hnone⟩ | ⟨rfl, hattempt⟩ :=
    Tables.attempt_cases throws (p.tables.selectUser l_email)
  · rw [if_pos (.inl rfl)]
    exact answered_of_throw hnone
  cases hbind : DbText.bind l_email with
  | none =>
    rw [if_pos (.inr (DbText.bind_eq_none.mp hbind))]
    refine answered_of_throw ?_
    rw [Tables.database_selectUser, hattempt, Tables.selectUser, hbind]
    rfl
  | some email =>
    obtain rfl := DbText.bind_text hbind
    rw [if_neg (by simp [email.fits_text])]
    refine hrec.answered ?_
    rw [Tables.database_selectUser, hattempt, Tables.selectUser_eq _ hbind]

/-- A database with one user. -/
def oneUser : Past := run (step String.length) start [(false, .registerUser "a@b" "ann" "pw")]

/-- A stranger's login has no answer. -/
theorem stranger_unanswered : oneUser.registered.length = 1 ∧
    ¬ ∃ answer, (oneUser.tables.database String.length false).authenticateUser "c@d" "pw" "" =
        some answer ∧ Authenticates String.length oneUser "c@d" "pw" "" answer := by
  have hnone : (oneUser.tables.database String.length false).authenticateUser "c@d" "pw" ""
      = none := (Database.authenticateUser_eq_none _ _ _ _).mpr rfl
  refine ⟨by decide, ?_⟩
  rintro ⟨answer, h, -⟩
  rw [hnone] at h
  cases h

/-! ### References -/

/-- Sender and receiver of every message are usernames of users. -/
structure Referential (t : Tables) : Prop where
  sender : References (fun r : MessageRow => r.sender.text) t.message
    (fun r : UserRow => r.username.text) t.user
  receiver : References (fun r : MessageRow => r.receiver.text) t.message
    (fun r : UserRow => r.username.text) t.user

/-- A message that SQLite can store is from a user and to a user. -/
def Addressed (p : Past) (c : Bool × Write) : Prop :=
  ∀ sender receiver content, c = (false, .addMessage sender receiver content) →
    DbText.Fits sender ∧ DbText.Fits receiver ∧ DbText.Fits content →
    p.tables.HasUsername sender ∧ p.tables.HasUsername receiver

/-- The receiver of a message reported as sent is a user. -/
def Reaches (hash : String → ℕ) (p : Past) (c : Bool × Write) : Prop :=
  ∀ sender receiver content, c.2 = .addMessage sender receiver content →
    (write hash p.tables c).2 = true → p.tables.HasUsername receiver

lemma start_referential : Referential start.tables :=
  ⟨List.forall_mem_nil _, List.forall_mem_nil _⟩

lemma step_foreignKeys (hash : String → ℕ) (p : Past) (c : Bool × Write) :
    (p.step hash c).tables.foreignKeys = p.tables.foreignKeys := by
  obtain ⟨heq, -⟩ | ⟨g, row, -, -, -, -, -, hkeys⟩ | ⟨row, -, -, -, -, -, hkeys⟩ :=
    step_cases hash p c
  · rw [heq]
  · exact hkeys
  · exact hkeys

lemma referential_step (hkeys : p.tables.foreignKeys = false) (h : Referential p.tables)
    (c : Bool × Write) : Referential (p.step hash c).tables ↔ Addressed p c := by
  obtain ⟨heq, href⟩ | ⟨g, row, hc, -, -, huser, hmessage, -⟩ |
      ⟨row, rfl, -, -, hmessage, huser, -⟩ :=
    step_cases hash p c
  · rw [heq]
    refine iff_of_true h ?_
    rintro sender receiver content rfl hfits
    rcases href sender receiver content rfl with hthrows | hno | ⟨hon, -⟩
    · cases hthrows
    · exact absurd hfits hno
    · rw [hkeys] at hon
      cases hon
  · refine iff_of_true ⟨?_, ?_⟩ fun s r x heq => ?_
    · rw [hmessage, huser]
      exact h.sender.more
    · rw [hmessage, huser]
      exact h.receiver.more
    · rw [heq] at hc
      cases hc
  · constructor
    · rintro ⟨hs, hr⟩ sender receiver content heq -
      obtain ⟨rfl, rfl, -⟩ := Write.addMessage.inj (Prod.mk.inj heq).2
      rw [hmessage, huser] at hs hr
      exact ⟨(references_append h.sender).mp hs, (references_append h.receiver).mp hr⟩
    · intro haddr
      obtain ⟨hs, hr⟩ := haddr _ _ _ rfl
        ⟨row.sender.fits_text, row.receiver.fits_text, row.content.fits_text⟩
      refine ⟨?_, ?_⟩
      · rw [hmessage, huser]
        exact (references_append h.sender).mpr hs
      · rw [hmessage, huser]
        exact (references_append h.receiver).mpr hr

lemma referential_enforced (hkeys : p.tables.foreignKeys = true) (h : Referential p.tables)
    (c : Bool × Write) : Referential (p.step hash c).tables := by
  obtain ⟨heq, -⟩ | ⟨g, row, -, -, -, huser, hmessage, -⟩ | ⟨row, -, href, -, hmessage, huser, -⟩ :=
    step_cases hash p c
  · rwa [heq]
  · refine ⟨?_, ?_⟩
    · rw [hmessage, huser]
      exact h.sender.more
    · rw [hmessage, huser]
      exact h.receiver.more
  · obtain ⟨hs, hr⟩ : p.tables.HasUsername row.sender.text ∧
        p.tables.HasUsername row.receiver.text := by
      by_contra hno
      exact href (.inr ⟨hkeys, hno⟩)
    refine ⟨?_, ?_⟩
    · rw [hmessage, huser]
      exact (references_append h.sender).mpr hs
    · rw [hmessage, huser]
      exact (references_append h.receiver).mpr hr

lemma Addressed.reaches {c : Bool × Write} (h : Addressed p c) : Reaches hash p c := by
  rintro sender receiver content hc htold
  obtain ⟨throws, c⟩ := c
  obtain rfl : c = .addMessage sender receiver content := hc
  obtain ⟨-, heq⟩ | ⟨⟨rfl, href⟩, -⟩ := p.tables.addMessage_cases throws sender receiver content
  · rw [write, heq] at htold
    cases htold
  · refine (h sender receiver content rfl ?_).2
    by_contra hno
    exact href (.inl hno)

/-- **When messages have users.** Over every history of calls, sender and receiver of every message
are users in all databases reached if and only if every message, when it is added, is from a user
and to a user; and then whoever is told that a message was sent has a receiver for it. -/
theorem referential_iff (hash : String → ℕ) (cs : List (Bool × Write)) :
    ((∀ ds, ds <+: cs → Referential (run (step hash) start ds).tables) ↔
      Along (step hash) Addressed start cs) ∧
    (Along (step hash) Addressed start cs → Along (step hash) (Reaches hash) start cs) := by
  refine ⟨?_, ?_⟩
  · refine prefixes_iff (I := fun p : Past => Referential p.tables)
      (J := fun p : Past => p.tables.foreignKeys = false) (fun p c hp => ?_)
      (fun p c hp h => referential_step hp h c) rfl start_referential
    rw [step_foreignKeys, hp]
  · exact along_imp fun p c h => h.reaches

/-- One user writes to himself, and is told so. -/
theorem referential_self :
    Along (step String.length) (Reaches String.length) start
      [(false, .registerUser "a@b" "ann" "pw"), (false, .addMessage "ann" "ann" "hi")] := by
  refine (referential_iff String.length _).2 ⟨fun _ _ _ h => (by cases h), ?_, trivial⟩
  rintro sender receiver content heq -
  obtain ⟨rfl, rfl, -⟩ := Write.addMessage.inj (Prod.mk.inj heq).2
  exact ⟨by decide, by decide⟩

/-- Nobody has registered, and a message is stored and reported as sent. -/
theorem nobody_told :
    ¬ Referential (run (step String.length) start [(false, .addMessage "ann" "bob" "hi")]).tables ∧
    ¬ Reaches String.length start (false, .addMessage "ann" "bob" "hi") := by
  refine ⟨fun h => absurd h.sender (by decide), fun h => ?_⟩
  exact absurd (h "ann" "bob" "hi" rfl rfl) (by decide)

end Past

end Sfrpg
