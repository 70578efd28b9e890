import Sfrpg.Lib.Run
import Sfrpg.Lib.Table
import Sfrpg.ServerMain

/-!
The database of the server: the tables `initDatabase` creates, and what SQLite makes of the
statements of `Server` on them.

An `INSERT` that throws stores nothing. SQLite throws where a constraint is broken, where a value
is none it can hold, and for reasons of its own, of which the tables know nothing: those are an
argument. Foreign keys are enforced on a connection that has executed `PRAGMA foreign_keys = ON`.
-/

namespace Sfrpg

open Lib Lib.Run Lib.Table

namespace DbText

/-- The strings SQLite can hold. -/
def Fits (s : String) : Prop :=
  (s.toList.all fun c => c.toNat < 256) = true ∧ s.toList.length < 2147483648

instance decidableFits (s : String) : Decidable (Fits s) := inferInstanceAs (Decidable (_ ∧ _))

/-- `bind`: a string as the value of a parameter. -/
def bind (s : String) : Option DbText :=
  if h : Fits s then some ⟨s, by simpa using h.1, h.2⟩ else none

lemma bind_text {s : String} {x : DbText} (h : bind s = some x) : x.text = s := by
  unfold bind at h
  split at h
  · exact (Option.some.inj h) ▸ rfl
  · cases h

lemma fits_text (x : DbText) : Fits x.text := ⟨by simpa using x.bytes, x.short⟩

lemma bind_eq_none {s : String} : bind s = none ↔ ¬ Fits s := by
  simp [bind]

lemma bindThree {α : Type} (a b c : String) :
    (¬ (Fits a ∧ Fits b ∧ Fits c) ∧ ∀ f : DbText → DbText → DbText → Option α,
      (bind a >>= fun x => bind b >>= fun y => bind c >>= f x y) = none) ∨
    ∃ x y z : DbText, x.text = a ∧ y.text = b ∧ z.text = c ∧ (Fits a ∧ Fits b ∧ Fits c) ∧
      ∀ f : DbText → DbText → DbText → Option α,
        (bind a >>= fun x => bind b >>= fun y => bind c >>= f x y) = f x y z := by
  cases hx : bind a with
  | none => exact .inl ⟨fun h => bind_eq_none.mp hx h.1, fun _ => rfl⟩
  | some x =>
    cases hy : bind b with
    | none => exact .inl ⟨fun h => bind_eq_none.mp hy h.2.1, fun _ => rfl⟩
    | some y =>
      cases hz : bind c with
      | none => exact .inl ⟨fun h => bind_eq_none.mp hz h.2.2, fun _ => rfl⟩
      | some z =>
        right
        rw [← bind_text hx, ← bind_text hy, ← bind_text hz]
        exact ⟨x, y, z, rfl, rfl, rfl, ⟨x.fits_text, y.fits_text, z.fits_text⟩, fun _ => rfl⟩

end DbText

/-- A row of the table `user`, without its id. -/
structure UserRow where
  email : DbText
  username : DbText
  password : DbText

/-- A row of the table `message`, without its id. -/
structure MessageRow where
  sender : DbText
  receiver : DbText
  content : DbText

/-- The database file and the connection of the server to it. -/
structure Tables where
  user : List UserRow
  message : List MessageRow
  foreignKeys : Bool
  uniqueEmail : Unique (fun r : UserRow => r.email.text) user
  uniqueUsername : Unique (fun r : UserRow => r.username.text) user

namespace Tables

/-- A file that does not exist yet. -/
def fresh : Tables where
  user := []
  message := []
  foreignKeys := false
  uniqueEmail := unique_nil
  uniqueUsername := unique_nil

/-- `initDatabase` opens a connection and creates the tables that are not there. It executes no
`PRAGMA`. -/
def initDatabase (file : Tables) : Tables := { file with foreignKeys := false }

def HasEmail (email : String) (t : Tables) : Prop := Has (fun r => r.email.text) email t.user

def HasUsername (username : String) (t : Tables) : Prop :=
  Has (fun r => r.username.text) username t.user

instance decidableHasEmail (s : String) (t : Tables) : Decidable (t.HasEmail s) :=
  inferInstanceAs (Decidable (Has _ _ _))

instance decidableHasUsername (s : String) (t : Tables) : Decidable (t.HasUsername s) :=
  inferInstanceAs (Decidable (Has _ _ _))

/-! ### Statements -/

def addUser (row : UserRow) (t : Tables) (hemail : ¬ t.HasEmail row.email.text)
    (husername : ¬ t.HasUsername row.username.text) : Tables := { t with
  user := t.user ++ [row]
  uniqueEmail := t.uniqueEmail.append hemail
  uniqueUsername := t.uniqueUsername.append husername }

def insertUser (email username password : String) (t : Tables) : Option Tables := do
  let email ← DbText.bind email
  let username ← DbText.bind username
  let password ← DbText.bind password
  if h : ¬ t.HasEmail email.text ∧ ¬ t.HasUsername username.text then
    some (t.addUser ⟨email, username, password⟩ h.1 h.2)
  else none

def selectUser (email : String) (t : Tables) : Option (Option (DbText × DbText)) := do
  let email ← DbText.bind email
  some ((select (fun r => r.email.text) email.text t.user).map fun r => (r.password, r.username))

def insertMessage (sender receiver content : String) (t : Tables) : Option Tables := do
  let sender ← DbText.bind sender
  let receiver ← DbText.bind receiver
  let content ← DbText.bind content
  if t.foreignKeys = true ∧ ¬ (t.HasUsername sender.text ∧ t.HasUsername receiver.text) then none
  else some { t with message := t.message ++ [⟨sender, receiver, content⟩] }

/-- The rows a `WHERE` clause holds of. -/
def selectRows (p : MessageRow → Bool) (t : Tables) : List (DbText × DbText × DbText) :=
  (t.message.filter p).map fun r => (r.sender, r.receiver, r.content)

/-- `sender = ? OR receiver = ?`. -/
def Names (sender receiver : DbText) (r : MessageRow) : Bool :=
  r.sender.text = sender.text || r.receiver.text = receiver.text

def selectMessages (sender receiver : String) (t : Tables) :
    Option (List (DbText × DbText × DbText)) := do
  let sender ← DbText.bind sender
  let receiver ← DbText.bind receiver
  some (t.selectRows (Names sender receiver))

def selectChat (sender receiver sender' receiver' : String) (t : Tables) :
    Option (List (DbText × DbText × DbText)) := do
  let sender ← DbText.bind sender
  let receiver ← DbText.bind receiver
  let sender' ← DbText.bind sender'
  let receiver' ← DbText.bind receiver'
  some (t.selectRows fun r => Names sender receiver r && Names sender' receiver' r)

/-- A statement, which SQLite may throw at for a reason of its own. -/
def attempt {α : Type} (throws : Bool) (statement : Option α) : Option α :=
  if throws then none else statement

/-- What the methods of `Server` see of the tables. -/
def database (hash : String → ℕ) (throws : Bool) (t : Tables) : Database where
  insertUser email username password :=
    (attempt throws (t.insertUser email username password)).map fun _ => ()
  selectUser email := attempt throws (t.selectUser email)
  insertMessage sender receiver content :=
    (attempt throws (t.insertMessage sender receiver content)).map fun _ => ()
  selectMessages sender receiver := attempt throws (t.selectMessages sender receiver)
  selectChat sender receiver sender' receiver' :=
    attempt throws (t.selectChat sender receiver sender' receiver')
  hash := hash

/-! ### The methods that write -/

/-- The tables a method leaves, and its answer. -/
def answer (t : Tables) (written : Option Tables) : Tables × Bool :=
  (written.getD t, written.isSome)

def registerUser (hash : String → ℕ) (throws : Bool) (l_email l_username l_password : String)
    (t : Tables) : Tables × Bool :=
  t.answer (attempt throws (t.insertUser l_email l_username (toString (hash l_password))))

def addMessage (throws : Bool) (l_sender l_receiver l_content : String) (t : Tables) :
    Tables × Bool :=
  t.answer (attempt throws (t.insertMessage l_sender l_receiver l_content))

section Answers

variable (hash : String → ℕ) (throws : Bool) (t : Tables)

lemma database_selectUser (email : String) :
    (t.database hash throws).selectUser email = attempt throws (t.selectUser email) := rfl

lemma selectUser_eq {email : String} {x : DbText} (h : DbText.bind email = some x) :
    t.selectUser email = some
      ((select (fun r => r.email.text) x.text t.user).map fun r => (r.password, r.username)) := by
  rw [selectUser, h]
  rfl

lemma addMessage_answer (sender receiver content : String) :
    (t.addMessage throws sender receiver content).2 =
      (t.database hash throws).addMessage sender receiver content :=
  (Option.isSome_map ..).symm

end Answers

/-! ### What a statement does -/

variable {t t' : Tables}

/-- The `INSERT` of a user breaks a constraint, or binds what SQLite cannot hold. -/
def RefusesUser (email username password : String) (t : Tables) : Prop :=
  ¬ (DbText.Fits email ∧ DbText.Fits username ∧ DbText.Fits password) ∨ t.HasEmail email ∨
    t.HasUsername username

def RefusesMessage (sender receiver content : String) (t : Tables) : Prop :=
  ¬ (DbText.Fits sender ∧ DbText.Fits receiver ∧ DbText.Fits content) ∨
    (t.foreignKeys = true ∧ ¬ (t.HasUsername sender ∧ t.HasUsername receiver))

lemma insertUser_cases (email username password : String) (t : Tables) :
    (t.RefusesUser email username password ∧ t.insertUser email username password = none) ∨
    (¬ t.RefusesUser email username password ∧ ∃ t' row,
      t.insertUser email username password = some t' ∧ row.email.text = email ∧
      row.username.text = username ∧ row.password.text = password ∧
      t'.user = t.user ++ [row] ∧ t'.message = t.message ∧ t'.foreignKeys = t.foreignKeys) := by
  rw [insertUser]
  obtain ⟨hfits, hnone⟩ | ⟨x, y, z, rfl, rfl, rfl, hfits, hsome⟩ :=
    DbText.bindThree email username password
  · exact .inl ⟨.inl hfits, hnone _⟩
  rw [hsome]
  by_cases h : ¬ t.HasEmail x.text ∧ ¬ t.HasUsername y.text
  · right
    rw [dif_pos h]
    refine ⟨?_, _, ⟨x, y, z⟩, rfl, rfl, rfl, rfl, rfl, rfl, rfl⟩
    rintro (hno | he | hu)
    · exact hno hfits
    · exact h.1 he
    · exact h.2 hu
  · left
    rw [dif_neg h]
    refine ⟨.inr ?_, rfl⟩
    by_contra hno
    exact h (not_or.mp hno)

lemma insertMessage_cases (sender receiver content : String) (t : Tables) :
    (t.RefusesMessage sender receiver content ∧ t.insertMessage sender receiver content = none) ∨
    (¬ t.RefusesMessage sender receiver content ∧ ∃ t' row,
      t.insertMessage sender receiver content = some t' ∧ row.sender.text = sender ∧
      row.receiver.text = receiver ∧ row.content.text = content ∧
      t'.message = t.message ++ [row] ∧ t'.user = t.user ∧ t'.foreignKeys = t.foreignKeys) := by
  rw [insertMessage]
  obtain ⟨hfits, hnone⟩ | ⟨x, y, z, rfl, rfl, rfl, hfits, hsome⟩ :=
    DbText.bindThree sender receiver content
  · exact .inl ⟨.inl hfits, hnone _⟩
  rw [hsome]
  by_cases h : t.foreignKeys = true ∧ ¬ (t.HasUsername x.text ∧ t.HasUsername y.text)
  · exact .inl ⟨.inr h, if_pos h⟩
  · right
    rw [if_neg h]
    refine ⟨?_, _, ⟨x, y, z⟩, rfl, rfl, rfl, rfl, rfl, rfl, rfl⟩
    rintro (hno | hkeys)
    · exact hno hfits
    · exact h hkeys

lemma attempt_cases {α : Type} (throws : Bool) (statement : Option α) :
    (throws = true ∧ attempt throws statement = none) ∨
      (throws = false ∧ attempt throws statement = statement) := by
  cases throws
  · exact .inr ⟨rfl, rfl⟩
  · exact .inl ⟨rfl, rfl⟩

/-- **A user is stored, or nothing is.** -/
lemma registerUser_cases (hash : String → ℕ) (throws : Bool) (email username password : String)
    (t : Tables) :
    ((throws = true ∨ t.RefusesUser email username (toString (hash password))) ∧
      t.registerUser hash throws email username password = (t, false)) ∨
    ((throws = false ∧ ¬ t.RefusesUser email username (toString (hash password))) ∧ ∃ t' row,
      t.registerUser hash throws email username password = (t', true) ∧ row.email.text = email ∧
      row.username.text = username ∧ row.password.text = toString (hash password) ∧
      t'.user = t.user ++ [row] ∧ t'.message = t.message ∧ t'.foreignKeys = t.foreignKeys) := by
  rw [registerUser]
  obtain ⟨hthrows, heq⟩ | ⟨hthrows, heq⟩ :=
    attempt_cases throws (t.insertUser email username (toString (hash password)))
  · rw [heq]
    exact .inl ⟨.inl hthrows, rfl⟩
  · rw [heq]
    obtain ⟨href, hnone⟩ | ⟨href, t', row, hsome, hrow⟩ :=
      insertUser_cases email username (toString (hash password)) t
    · rw [hnone]
      exact .inl ⟨.inr href, rfl⟩
    · rw [hsome]
      exact .inr ⟨⟨hthrows, href⟩, t', row, rfl, hrow⟩

/-- **A message is stored, or nothing is.** -/
lemma addMessage_cases (throws : Bool) (sender receiver content : String) (t : Tables) :
    ((throws = true ∨ t.RefusesMessage sender receiver content) ∧
      t.addMessage throws sender receiver content = (t, false)) ∨
    ((throws = false ∧ ¬ t.RefusesMessage sender receiver content) ∧ ∃ t' row,
      t.addMessage throws sender receiver content = (t', true) ∧ row.sender.text = sender ∧
      row.receiver.text = receiver ∧ row.content.text = content ∧
      t'.message = t.message ++ [row] ∧ t'.user = t.user ∧ t'.foreignKeys = t.foreignKeys) := by
  rw [addMessage]
  obtain ⟨hthrows, heq⟩ | ⟨hthrows, heq⟩ :=
    attempt_cases throws (t.insertMessage sender receiver content)
  · rw [heq]
    exact .inl ⟨.inl hthrows, rfl⟩
  · rw [heq]
    obtain ⟨href, hnone⟩ | ⟨href, t', row, hsome, hrow⟩ :=
      insertMessage_cases sender receiver content t
    · rw [hnone]
      exact .inl ⟨.inr href, rfl⟩
    · rw [hsome]
      exact .inr ⟨⟨hthrows, href⟩, t', row, rfl, hrow⟩

end Tables

end Sfrpg
