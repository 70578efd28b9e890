import Sfrpg.ClientMain
import Sfrpg.Lib.StringStream

/-!
The loop of commands of the client: what it reads from the terminal, and the requests it sends.

A pass of the loop reads a line and, for some lines, more words. It is over once the password has
been repeated, which the loop asks for until the words agree: on a terminal with nothing left to
read it asks for ever.
-/

namespace Sfrpg

open Lib Lib.StringStream

namespace ClientMain

/-- What is still to be typed, and what was written on the screen. -/
structure Terminal where
  typed : StringStream
  screen : List String

/-- What a pass of the loop sends, but for the name of the user. -/
inductive Request
  | register (email username password repeatPassword : String)
  | login (email password : String)
  | chat
  | message (receiver content : String)
  | chatwith (other : String)
  | say (str : String)
  deriving DecidableEq

/-- What a pass of the loop comes to. -/
inductive Command
  | skip
  | quit
  | request (r : Request)
  deriving DecidableEq

/-! ### Reading -/

/-- A program that talks to the terminal, and may not end. -/
abbrev Dialogue := StateT Terminal Option

def write (line : String) : Dialogue Unit := modify fun t => { t with screen := t.screen ++ [line] }

/-- A word read into a variable that holds `x`. -/
def ask (prompt x : String) : Dialogue String := do
  write prompt
  modifyGet fun t => ((readWord x t.typed).1, { t with typed := (readWord x t.typed).2 })

def getLine : Dialogue String :=
  modifyGet fun t => ((readLine t.typed).1, { t with typed := (readLine t.typed).2 })

def ignoreLine : Dialogue Unit := modify fun t => { t with typed := skipLine t.typed }

/-- The loop that asks for the password again, with at most `n` passes. -/
def askAgain (password : String) : ℕ → String → Dialogue String
  | 0, repeatPassword => if repeatPassword = password then pure repeatPassword else failure
  | n + 1, repeatPassword =>
    if repeatPassword = password then pure repeatPassword
    else do
      let repeatPassword ← ask "Passwords must be similar! Try again: " repeatPassword
      askAgain password n repeatPassword

/-- A pass of the loop of `commandProcess` up to the packet. Asking again as often as there are
characters left is asking for ever. -/
def readCommand : Dialogue Command := do
  let str ← getLine
  if str = "" then pure .skip
  else if str = "!quit" then pure .quit
  else if str = "register" then do
    let email ← ask "Enter your email address: " ""
    let username ← ask "Enter your username: " ""
    let password ← ask "Enter your password: " ""
    let repeatPassword ← ask "Repeat your password: " ""
    let repeatPassword ← askAgain password (← get).typed.size repeatPassword
    pure (.request (.register email username password repeatPassword))
  else if str = "login" then do
    let email ← ask "Enter your email address: " ""
    let password ← ask "Enter your password: " ""
    pure (.request (.login email password))
  else if str = "chat" then pure (.request .chat)
  else if str = "message" then do
    let receiver ← ask "To whom: " ""
    write "Enter your message (very important): "
    ignoreLine
    let content ← getLine
    pure (.request (.message receiver content))
  else if str = "chatwith" then do
    let other ← ask "Who do you want to talk to? " ""
    pure (.request (.chatwith other))
  else pure (.request (.say str))

/-! ### Sending -/

namespace Request

def type : Request → PacketType
  | .register _ _ _ _ => .Register
  | .login _ _ => .Login
  | .chat => .Sql
  | .message _ _ => .ChatMessage
  | .chatwith _ => .Chat
  | .say _ => .Message

/-- The strings of the packet, where the client calls its user `username`. -/
def strings (username : String) : Request → List String
  | .register email username password repeatPassword => [email, username, password, repeatPassword]
  | .login email password => [email, password]
  | .chat => [username]
  | .message receiver content => [username, receiver, content]
  | .chatwith other => [username, other]
  | .say str => [str]

def packet (username : String) (r : Request) : Packet :=
  (r.strings username).foldl (fun p s => p.putString s) (stampPacket r.type .empty)

end Request

/-! ### The loop that asks again -/

section AskAgain

variable {password : String}

lemma ask_run (prompt x : String) (t : Terminal) :
    (ask prompt x).run t =
      some ((readWord x t.typed).1, ⟨(readWord x t.typed).2, t.screen ++ [prompt]⟩) := rfl

lemma askAgain_of_eq (n : ℕ) (t : Terminal) :
    (askAgain password n password).run t = some (password, t) := by
  cases n <;> simp [askAgain]

lemma askAgain_zero {x : String} (hx : x ≠ password) (t : Terminal) :
    (askAgain password 0 x).run t = none := by
  rw [askAgain, if_neg hx]
  rfl

lemma askAgain_succ {x : String} (hx : x ≠ password) (n : ℕ) (t : Terminal) :
    (askAgain password (n + 1) x).run t =
      (askAgain password n (readWord x t.typed).1).run
        ⟨(readWord x t.typed).2, t.screen ++ ["Passwords must be similar! Try again: "]⟩ := by
  rw [askAgain, if_neg hx, StateT.run_bind, ask_run]
  rfl

lemma askAgain_of_size_eq_zero {x : String} (hx : x ≠ password) (n : ℕ) {t : Terminal}
    (ht : t.typed.size = 0) : (askAgain password n x).run t = none := by
  induction n generalizing t with
  | zero => exact askAgain_zero hx t
  | succ n ih =>
    rw [askAgain_succ hx, readWord_of_size_eq_zero ht]
    exact ih rfl

/-- **More passes change nothing**: as many as there are characters left are enough, so the loop
does not end where these do not end it. -/
theorem askAgain_enough (n : ℕ) (x : String) (t : Terminal) (hn : t.typed.size ≤ n) :
    (askAgain password n x).run t = (askAgain password t.typed.size x).run t := by
  have hdiffer : ∀ (n : ℕ) (x : String) (t : Terminal), t.typed.size ≤ n →
      ∀ m, t.typed.size ≤ m →
        (askAgain password n x).run t = (askAgain password m x).run t := by
    intro n
    induction n with
    | zero =>
      intro x t ht m _
      by_cases hx : x = password
      · rw [hx, askAgain_of_eq, askAgain_of_eq]
      · have hzero : t.typed.size = 0 := Nat.le_zero.mp ht
        rw [askAgain_of_size_eq_zero hx 0 hzero, askAgain_of_size_eq_zero hx m hzero]
    | succ n ih =>
      intro x t ht m hm
      by_cases hx : x = password
      · rw [hx, askAgain_of_eq, askAgain_of_eq]
      cases m with
      | zero =>
        have hzero : t.typed.size = 0 := Nat.le_zero.mp hm
        rw [askAgain_of_size_eq_zero hx _ hzero, askAgain_of_size_eq_zero hx 0 hzero]
      | succ m =>
        have hless := size_readWord_le x t.typed
        rw [askAgain_succ hx, askAgain_succ hx]
        exact ih _ _ (by dsimp only; omega) m (by dsimp only; omega)
  exact hdiffer n x t hn _ le_rfl

end AskAgain

/-! ### What is read was typed -/

/-- What is left of the text `l`. -/
def Within (l : List Char) (t : Terminal) : Prop := ∀ rest, t.typed = some rest → rest <:+ l

/-- On a terminal with the text `l`, what the program comes to satisfies `P`. -/
def Says {α : Type} (l : List Char) (P : α → Prop) (d : Dialogue α) : Prop :=
  ∀ t, Within l t → ∀ a t', d.run t = some (a, t') → P a ∧ Within l t'

/-- A part of the text. -/
def Typed (l : List Char) (s : String) : Prop := s.toList <:+: l

/-- What a command says was typed, but for the name of the user. -/
def Command.Typed (l : List Char) (c : Command) : Prop :=
  ∀ r, c = .request r → ∀ username, ∀ s ∈ r.strings username, s = username ∨ ClientMain.Typed l s

section Says

variable {l : List Char} {α β : Type}

lemma typed_empty : Typed l "" := List.nil_infix

lemma Within.none (screen : List String) : Within l ⟨none, screen⟩ := fun _ h => nomatch h

lemma Says.pure {P : α → Prop} {a : α} (ha : P a) : Says l P (Pure.pure a) := by
  intro t ht b t' h
  cases h
  exact ⟨ha, ht⟩

lemma Says.bind {P : α → Prop} {Q : β → Prop} {d : Dialogue α} {f : α → Dialogue β}
    (hd : Says l P d) (hf : ∀ a, P a → Says l Q (f a)) : Says l Q (d >>= f) := by
  intro t ht b t' h
  rw [StateT.run_bind] at h
  obtain ⟨⟨a, u⟩, hu, hrest⟩ := Option.bind_eq_some_iff.mp h
  obtain ⟨ha, hwithin⟩ := hd t ht a u hu
  exact hf a ha u hwithin b t' hrest

lemma Says.ite {P : α → Prop} {c : Prop} [Decidable c] {d e : Dialogue α} (hd : Says l P d)
    (he : Says l P e) : Says l P (if c then d else e) := by
  split
  · exact hd
  · exact he

lemma says_write (line : String) : Says l (fun _ => True) (write line) := by
  intro t ht a t' h
  cases h
  exact ⟨trivial, ht⟩

lemma says_ignoreLine : Says l (fun _ => True) ignoreLine := by
  rintro ⟨typed, screen⟩ ht a t' h
  cases h
  refine ⟨trivial, fun rest hrest => ?_⟩
  cases typed with
  | none => cases hrest
  | some r => exact (skipLine_suffix hrest).trans (ht r rfl)

lemma says_getLine : Says l (Typed l) getLine := by
  intro t ht a t' h
  cases h
  obtain hfail | ⟨r, line, rest, hr, hline, hin, hrest⟩ := readLine_cases t.typed
  · rw [hfail]
    exact ⟨typed_empty, .none _⟩
  · rw [hline]
    refine ⟨?_, fun x hx => ?_⟩
    · rw [Typed, String.toList_ofList]
      exact hin.trans (ht r hr).isInfix
    · cases hx
      exact hrest.trans (ht r hr)

lemma says_ask (prompt : String) {x : String} (hx : Typed l x) :
    Says l (Typed l) (ask prompt x) := by
  intro t ht a t' h
  rw [ask_run] at h
  cases h
  cases hr : t.typed with
  | none => exact ⟨hx, .none _⟩
  | some r =>
    obtain hfail | ⟨w, rest, hword, hin, hrest⟩ := readWord_cases x r
    · rw [hfail]
      exact ⟨hx, .none _⟩
    · rw [hword]
      refine ⟨?_, fun y hy => ?_⟩
      · rw [Typed, String.toList_ofList]
        exact hin.trans (ht r hr).isInfix
      · cases hy
        exact hrest.trans (ht r hr)

lemma says_askAgain (password : String) (n : ℕ) {x : String} (hx : Typed l x) :
    Says l (· = password) (askAgain password n x) := by
  induction n generalizing x with
  | zero =>
    rw [askAgain]
    split
    · exact .pure ‹_›
    · exact fun _ _ _ _ h => nomatch h
  | succ n ih =>
    rw [askAgain]
    split
    · exact .pure ‹_›
    · exact (says_ask _ hx).bind fun _ hy => ih hy

lemma says_get : Says l (fun _ => True) (get : Dialogue Terminal) := by
  intro t ht a t' h
  cases h
  exact ⟨trivial, ht⟩

/-- **A command says what was typed.** -/
theorem says_readCommand (l : List Char) : Says l (Command.Typed l) readCommand := by
  have hrequest : ∀ r : Request, (∀ username, ∀ s ∈ r.strings username, s = username ∨ Typed l s) →
      Says l (Command.Typed l) (Pure.pure (.request r)) := by
    intro r hr
    refine .pure fun r' h => ?_
    cases h
    exact hr
  have hplain : ∀ c : Command, (∀ r, c ≠ .request r) → Says l (Command.Typed l) (Pure.pure c) :=
    fun c hc => .pure fun r h => absurd h (hc r)
  have hask : ∀ prompt, Says l (Typed l) (ask prompt "") :=
    fun prompt => says_ask prompt typed_empty
  refine says_getLine.bind fun str hstr => ?_
  refine .ite (hplain _ fun _ h => nomatch h) (.ite (hplain _ fun _ h => nomatch h) ?_)
  refine .ite ?_ (.ite ?_ (.ite ?_ (.ite ?_ (.ite ?_ ?_))))
  · -- `register`
    refine (hask _).bind fun email hemail => (hask _).bind fun username husername => ?_
    refine (hask _).bind fun password hpassword => (hask _).bind fun again hagain => ?_
    refine says_get.bind fun t _ => (says_askAgain password _ hagain).bind fun final hfinal => ?_
    refine hrequest _ fun name s hs => .inr ?_
    simp only [Request.strings, List.mem_cons, List.not_mem_nil, or_false] at hs
    rcases hs with rfl | rfl | rfl | rfl
    · exact hemail
    · exact husername
    · exact hpassword
    · rw [hfinal]
      exact hpassword
  · -- `login`
    refine (hask _).bind fun email hemail => (hask _).bind fun password hpassword => ?_
    refine hrequest _ fun name s hs => .inr ?_
    simp only [Request.strings, List.mem_cons, List.not_mem_nil, or_false] at hs
    rcases hs with rfl | rfl
    · exact hemail
    · exact hpassword
  · -- `chat`
    exact hrequest _ fun name s hs => .inl (List.mem_singleton.mp hs)
  · -- `message`
    refine (hask _).bind fun receiver hreceiver => (says_write _).bind fun _ _ => ?_
    refine says_ignoreLine.bind fun _ _ => says_getLine.bind fun content hcontent => ?_
    refine hrequest _ fun name s hs => ?_
    simp only [Request.strings, List.mem_cons, List.not_mem_nil, or_false] at hs
    rcases hs with rfl | rfl | rfl
    · exact .inl rfl
    · exact .inr hreceiver
    · exact .inr hcontent
  · -- `chatwith`
    refine (hask _).bind fun other hother => hrequest _ fun name s hs => ?_
    simp only [Request.strings, List.mem_cons, List.not_mem_nil, or_false] at hs
    rcases hs with rfl | rfl
    · exact .inl rfl
    · exact .inr hother
  · -- any other line
    refine hrequest _ fun name s hs => .inr ?_
    rw [List.mem_singleton.mp hs]
    exact hstr

end Says

/-! ### Packets -/

/-- The text of a terminal: bytes, so many that 32 bits can count them, and those of an endpoint
before them. -/
structure Keyboard where
  text : List Char
  bytes : ∀ c ∈ text, c.toNat < 256
  short : text.length < 4294967274

lemma Keyboard.fits (k : Keyboard) {s : String} (hs : Typed k.text s) : Packet.StringFits s :=
  ⟨fun c hc => k.bytes c (hs.subset hc), (lt_of_le_of_lt hs.length_le k.short).trans (by decide)⟩

lemma id_bounds (type : PacketType) : -128 ≤ type.id ∧ type.id < 128 := by
  cases type <;> decide

namespace Request

/-- The strings of the packet are ones it can carry. -/
def Fits (username : String) (r : Request) : Prop :=
  ∀ s ∈ r.strings username, Packet.StringFits s

lemma packet_data (username : String) (r : Request) :
    (r.packet username).data =
      Packet.byte r.type.id :: (r.strings username).flatMap Packet.string.put := by
  have hfold : ∀ (l : List String) (p : Packet),
      (l.foldl (fun p s => p.putString s) p).data = p.data ++ l.flatMap Packet.string.put := by
    intro l
    induction l with
    | nil => exact fun p => (List.append_nil _).symm
    | cons s l ih =>
      intro p
      rw [List.foldl_cons, ih, Packet.putString, List.flatMap_cons, List.append_assoc]
  rw [packet, hfold]
  rfl

lemma getInt8_packet (username : String) (r : Request) :
    Packet.getInt8 (r.packet username).data =
      some (r.type.id, (r.strings username).flatMap Packet.string.put) := by
  rw [packet_data]
  exact Packet.getInt8_byte (id_bounds r.type).1 (id_bounds r.type).2 _

end Request

section Payload

variable {a b c : String}

lemma payload_one (ha : Packet.StringFits a) (rest : List UInt8) :
    ServerMain.payload ServerMain.readOne (Packet.string.put a ++ rest) = a :=
  congrArg Prod.fst (Takes.read Packet.string ha "" rest)

lemma payload_two (ha : Packet.StringFits a) (hb : Packet.StringFits b) (rest : List UInt8) :
    ServerMain.payload ServerMain.readTwo
      (Packet.string.put a ++ (Packet.string.put b ++ rest)) = (a, b) := by
  have htakes : Takes ServerMain.readTwo (Packet.string.put a ++ (Packet.string.put b ++ []))
      (a, b) :=
    (Takes.read Packet.string ha "").bind
      ((Takes.read Packet.string hb "").bind (Takes.pure (a, b)))
  rw [List.append_nil] at htakes
  rw [← List.append_assoc]
  exact congrArg Prod.fst (htakes rest)

lemma payload_three (ha : Packet.StringFits a) (hb : Packet.StringFits b)
    (hc : Packet.StringFits c) (rest : List UInt8) :
    ServerMain.payload ServerMain.readThree
      (Packet.string.put a ++ (Packet.string.put b ++ (Packet.string.put c ++ rest))) =
        (a, b, c) := by
  have htakes : Takes ServerMain.readThree (Packet.string.put a ++ (Packet.string.put b ++
      (Packet.string.put c ++ []))) (a, b, c) :=
    (Takes.read Packet.string ha "").bind ((Takes.read Packet.string hb "").bind
      ((Takes.read Packet.string hc "").bind (Takes.pure (a, b, c))))
  rw [List.append_nil] at htakes
  rw [← List.append_assoc (Packet.string.put b), ← List.append_assoc]
  exact congrArg Prod.fst (htakes rest)

end Payload

namespace Request

/-- What the server reads out of the packet. -/
structure Reads (username : String) (data : List UInt8) (r : Request) : Prop where
  one : ∀ a rest, r.strings username = a :: rest →
    ServerMain.payload ServerMain.readOne data = a
  two : ∀ a b rest, r.strings username = a :: b :: rest →
    ServerMain.payload ServerMain.readTwo data = (a, b)
  three : ∀ a b c rest, r.strings username = a :: b :: c :: rest →
    ServerMain.payload ServerMain.readThree data = (a, b, c)

/-- **The server reads what was sent**, as many strings as it asks for. -/
theorem reads {username : String} {r : Request} (hr : r.Fits username) :
    r.Reads username ((r.strings username).flatMap Packet.string.put) where
  one a rest h := by
    rw [Fits, h] at hr
    rw [h, List.flatMap_cons]
    exact payload_one (hr a (by simp)) _
  two a b rest h := by
    rw [Fits, h] at hr
    rw [h, List.flatMap_cons, List.flatMap_cons]
    exact payload_two (hr a (by simp)) (hr b (by simp)) _
  three a b c rest h := by
    rw [Fits, h] at hr
    rw [h, List.flatMap_cons, List.flatMap_cons, List.flatMap_cons]
    exact payload_three (hr a (by simp)) (hr b (by simp)) (hr c (by simp)) _

lemma fits_of_typed {k : Keyboard} {r : Request} (hr : (Command.request r).Typed k.text)
    {username : String} (hname : Packet.StringFits username) : r.Fits username := by
  intro s hs
  rcases hr r rfl username s hs with rfl | htyped
  · exact hname
  · exact k.fits htyped

end Request

end ClientMain

end Sfrpg
