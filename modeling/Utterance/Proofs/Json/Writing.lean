import Utterance.Proofs.Json.LowerKeys
import Utterance.Proofs.Json.Numbers

/-! A value that is written is read as it was, as far as its doubles are. -/

namespace Utterance.Json

/-! Strings. -/

/-- The four digits of a control character. -/
theorem hexPadded_control : ∀ n < 32,
    Text.hexPadded 4 n = ['0', '0', (n / 16).digitChar, (n % 16).digitChar] ∧
      Text.hexValue? (n / 16).digitChar = some (n / 16) ∧
      Text.hexValue? (n % 16).digitChar = some (n % 16) := by
  decide

/-- A control character is read back from its number. -/
theorem run_control {role : Role} {sofar : List Char} {o : List Frame} {c : Char} (hc : c.toNat < 32)
    (rest : List Char) :
    run (.text role .plain sofar o) ('\\' :: 'u' :: Text.hexPadded 4 c.toNat ++ rest) =
      run (.text role .plain (c :: sofar) o) rest := by
  obtain ⟨hdigits, hhigh, hlow⟩ := hexPadded_control c.toNat hc
  have hn : c.toNat / 16 * 16 + c.toNat % 16 = c.toNat := by omega
  have hzero : Text.hexValue? '0' = some 0 := rfl
  have hlone : ¬0xd800 ≤ c.toNat ∧ ¬0xdc00 ≤ c.toNat := by omega
  rw [hdigits]
  simp [run, step, stepText, hzero, hhigh, hlow, hn, hlone]

theorem run_writeChar (role : Role) (sofar : List Char) (o : List Frame) (c : Char) (rest : List Char) :
    run (.text role .plain sofar o) (writeChar c ++ rest) = run (.text role .plain (c :: sofar) o) rest := by
  unfold writeChar
  split
  case h_8 hquote hslash _ _ _ _ _ =>
    split
    case isTrue hc => exact run_control hc rest
    case isFalse hc =>
      have hstep : step (.text role .plain sofar o) c = some (.text role .plain (c :: sofar) o) := by
        simp [step, stepText, hc, show c ≠ '"' from hquote, show c ≠ '\\' from hslash]
      rw [List.singleton_append, run, hstep]
      rfl
  all_goals rfl

theorem run_writeChars (role : Role) (sofar : List Char) (o : List Frame) (cs rest : List Char) :
    run (.text role .plain sofar o) (cs.flatMap writeChar ++ rest) =
      run (.text role .plain (cs.reverse ++ sofar) o) rest := by
  induction cs generalizing sofar with
  | nil => rfl
  | cons c cs ih => simp [run_writeChar, ih]

/-- A string is read back behind its opening quotes. -/
theorem run_text (role : Role) (o : List Frame) (s : String) (rest : List Char) :
    run (.text role .plain [] o) (s.toList.flatMap writeChar ++ '"' :: rest) =
      run (closeText role s.toList.reverse o) rest := by
  rw [run_writeChars, List.append_nil]
  rfl

/-! Values. -/

/-- A value that stands in another: it is that one, or stands in an item or a member of it. -/
inductive Within (x : Json) : Json → Prop
  | self : Within x x
  | item {y : Json} {ys : List Json} : y ∈ ys → Within x y → Within x (.arr ys)
  | member {m : String × Json} {ms : List (String × Json)} : m ∈ ms → Within x m.2 → Within x (.obj ms)

/-- What holds of a value and of all values in it. -/
def Everywhere (P : Json → Prop) (j : Json) : Prop :=
  ∀ v, Within v j → P v

theorem Everywhere.self {P : Json → Prop} {j : Json} (h : Everywhere P j) : P j :=
  h j .self

theorem Everywhere.item {P : Json → Prop} {x : Json} {xs : List Json} (h : Everywhere P (.arr xs))
    (hx : x ∈ xs) : Everywhere P x :=
  fun v hv => h v (.item hx hv)

theorem Everywhere.member {P : Json → Prop} {m : String × Json} {ms : List (String × Json)}
    (h : Everywhere P (.obj ms)) (hm : m ∈ ms) : Everywhere P m.2 :=
  fun v hv => h v (.member hm hv)

theorem everywhere_leaf {P : Json → Prop} {j : Json} (hi : j.items? = none) (hm : j.members? = none)
    (h : P j) : Everywhere P j := by
  intro v hv
  cases hv with
  | self => exact h
  | item => cases hi
  | member => cases hm

theorem everywhere_arr {P : Json → Prop} {xs : List Json} (h : P (.arr xs))
    (hx : ∀ x ∈ xs, Everywhere P x) : Everywhere P (.arr xs) := by
  intro v hv
  cases hv with
  | self => exact h
  | item hm hv => exact hx _ hm v hv

theorem everywhere_obj {P : Json → Prop} {ms : List (String × Json)} (h : P (.obj ms))
    (hm : ∀ m ∈ ms, Everywhere P m.2) : Everywhere P (.obj ms) := by
  intro v hv
  cases hv with
  | self => exact h
  | member hmem hv => exact hm _ hmem v hv

mutual

/-- How many arrays and objects stand around the innermost part of a value. -/
def depth : Json → Nat
  | .arr xs => itemsDepth xs + 1
  | .obj ms => membersDepth ms + 1
  | _ => 0

def itemsDepth : List Json → Nat
  | [] => 0
  | x :: xs => max (depth x) (itemsDepth xs)

def membersDepth : List (String × Json) → Nat
  | [] => 0
  | (_, v) :: ms => max (depth v) (membersDepth ms)

end

/-- What a value is by itself: a whole number fits a word, and the keys of an object differ. -/
def IsProper : Json → Prop
  | .int n => -(2 ^ 63) ≤ n ∧ n < 2 ^ 64
  | .obj ms => (ms.map Prod.fst).Nodup
  | _ => True

/-- A value that is read as it was written, if it is a double. -/
def Rereads : Json → Prop
  | .float x => ofText? (compact (.float x)) = some (.float x)
  | _ => True

/-- A value whose keys, if it has any, are their own lower-case forms. -/
def HasLowerKeys : Json → Prop
  | .obj ms => ∀ k ∈ ms.map Prod.fst, Text.lowered k = k
  | _ => True

theorem divides_writeItems (xs : List Json) (rest : List Char) : Divides (writeItems xs ++ rest) := by
  cases xs with
  | nil => exact ⟨']', rfl, .inr (.inl rfl)⟩
  | cons x xs => exact ⟨',', rfl, .inl rfl⟩

theorem divides_writeMembers (ms : List (String × Json)) (rest : List Char) :
    Divides (writeMembers ms ++ rest) := by
  cases ms with
  | nil => exact ⟨'}', rfl, .inr (.inr rfl)⟩
  | cons m ms => exact ⟨',', rfl, .inl rfl⟩

theorem written?_of_decode? {cs : List Char} {x : Float} (h : decode? cs = some (.float x)) :
    written? cs = some (.float x) := by
  obtain ⟨v, hv, hm⟩ := Option.map_eq_some_iff.mp h
  rw [hv]
  cases v <;> first | exact congrArg some hm | cases hm

/-- A double that is read back is so behind any container that is open. -/
theorem run_writeFloat {x : Float} (h : Rereads (.float x)) (b : Bool) (o : List Frame) {rest : List Char}
    (hr : Divides rest) : run (.value b o) (writeFloat x ++ rest) = run (complete (.float x) o) rest := by
  have hx : written? (writeFloat x) = some (.float x) := by
    refine written?_of_decode? ?_
    rw [Rereads, ofText?, compact, String.toList_ofList] at h
    exact h
  rcases writeFloat_cases x with hnull | hall
  · rw [hnull] at hx
    cases hx
  · exact run_number (List.all_eq_true.mp hall) hx b o hr

/-- A key and its colon. -/
theorem run_writeKey (k : String) (ms : List (String × Json)) (o : List Frame) (rest : List Char) :
    run (.text (.key ms) .plain [] o) (k.toList.flatMap writeChar ++ '"' :: ':' :: rest) =
      run (.value false (.object ms k :: o)) rest := by
  rw [run_text, closeText, List.reverse_reverse, String.ofList_toList]
  rfl

mutual

/-- A value is read back behind whatever is open, with room for what opens in it. -/
theorem run_write {j : Json} (h : Everywhere (fun v => IsProper v ∧ Rereads v) j) (b : Bool)
    {o : List Frame} (ho : o.length + j.depth ≤ maxOpen) {rest : List Char}
    (hr : isScalar j → Divides rest) :
    run (.value b o) (write j ++ rest) = run (complete j o) rest := by
  cases j with
  | null => rfl
  | bool t => cases t <;> rfl
  | int n =>
    exact run_number (isNumberChar_toString n) (written?_int h.self.1.1 h.self.1.2) b o (hr rfl)
  | float x => exact run_writeFloat h.self.2 b o (hr rfl)
  | str s =>
    have hopen : step (.value b o) '"' = some (.text .value .plain [] o) := rfl
    have hclose : closeText .value s.toList.reverse o = complete (.str s) o := by
      rw [closeText, List.reverse_reverse, String.ofList_toList]
    have hassoc : write (.str s) ++ rest = '"' :: (s.toList.flatMap writeChar ++ '"' :: rest) := by
      simp [write, writeLeaf, writeText]
    rw [hassoc, run, hopen, Option.bind_some, run_text, hclose]
  | arr xs =>
    have hlt : o.length < maxOpen := by
      rw [depth] at ho
      omega
    have hopen : step (.value b o) '[' = some (.value true (.array [] :: o)) := by
      simp [step, stepValue, isSpace, hlt]
    cases xs with
    | nil =>
      rw [write, List.cons_append, run, hopen]
      rfl
    | cons x xs =>
      have hfirst : run (.value true (.array [] :: o)) (write x ++ (writeItems xs ++ rest)) =
          run (.afterItem [x] o) (writeItems xs ++ rest) :=
        run_write (h.item List.mem_cons_self) true (by simp [depth, itemsDepth] at ho ⊢; omega)
          fun _ => divides_writeItems xs rest
      rw [write, List.cons_append, List.cons_append, List.append_assoc, run, hopen, Option.bind_some, hfirst]
      exact run_writeItems (fun y hy => h.item (List.mem_cons_of_mem x hy)) [x]
        (by simp [depth, itemsDepth] at ho ⊢; omega) rest
  | obj ms =>
    have hlt : o.length < maxOpen := by
      rw [depth] at ho
      omega
    have hopen : step (.value b o) '{' = some (.key true [] o) := by
      simp [step, stepValue, isSpace, hlt]
    cases ms with
    | nil =>
      rw [write, List.cons_append, run, hopen]
      rfl
    | cons m ms =>
      obtain ⟨k, v⟩ := m
      have hvalue : run (.value false (.object [] k :: o)) (write v ++ (writeMembers ms ++ rest)) =
          run (.afterMember [(k, v)] o) (writeMembers ms ++ rest) :=
        run_write (h.member (m := (k, v)) List.mem_cons_self) false
          (by simp [depth, membersDepth] at ho ⊢; omega) fun _ => divides_writeMembers ms rest
      have hquote : step (.key true [] o) '"' = some (.text (.key []) .plain [] o) := rfl
      have hassoc : write (.obj ((k, v) :: ms)) ++ rest =
          '{' :: '"' :: (k.toList.flatMap writeChar ++
            '"' :: ':' :: (write v ++ (writeMembers ms ++ rest))) := by
        simp [write, writeText]
      rw [hassoc, run, hopen, Option.bind_some, run, hquote, Option.bind_some, run_writeKey, hvalue]
      exact run_writeMembers (fun n hn => h.member (List.mem_cons_of_mem (k, v) hn)) [(k, v)]
        (by simp [depth, membersDepth] at ho ⊢; omega) rest

theorem run_writeItems {xs : List Json} (h : ∀ x ∈ xs, Everywhere (fun v => IsProper v ∧ Rereads v) x)
    (items : List Json) {o : List Frame} (ho : o.length + 1 + itemsDepth xs ≤ maxOpen) (rest : List Char) :
    run (.afterItem items o) (writeItems xs ++ rest) =
      run (complete (.arr (items.reverse ++ xs)) o) rest := by
  cases xs with
  | nil =>
    rw [List.append_nil]
    rfl
  | cons x xs =>
    obtain ⟨hx, hxs⟩ := List.forall_mem_cons.mp h
    have hcomma : step (.afterItem items o) ',' = some (.value false (.array items :: o)) := rfl
    have hvalue : run (.value false (.array items :: o)) (write x ++ (writeItems xs ++ rest)) =
        run (.afterItem (x :: items) o) (writeItems xs ++ rest) :=
      run_write hx false (by simp [itemsDepth] at ho ⊢; omega) fun _ => divides_writeItems xs rest
    rw [writeItems, List.cons_append, List.cons_append, List.append_assoc, run, hcomma, Option.bind_some, hvalue,
      run_writeItems hxs (x :: items) (by simp [itemsDepth] at ho ⊢; omega) rest,
      List.reverse_cons, List.append_assoc, List.singleton_append]

theorem run_writeMembers {ms : List (String × Json)}
    (h : ∀ m ∈ ms, Everywhere (fun v => IsProper v ∧ Rereads v) m.2) (members : List (String × Json))
    {o : List Frame} (ho : o.length + 1 + membersDepth ms ≤ maxOpen) (rest : List Char) :
    run (.afterMember members o) (writeMembers ms ++ rest) =
      run (complete (.obj (members.reverse ++ ms)) o) rest := by
  cases ms with
  | nil =>
    rw [List.append_nil]
    rfl
  | cons m ms =>
    obtain ⟨k, v⟩ := m
    obtain ⟨hv, hms⟩ := List.forall_mem_cons.mp h
    have hcomma : step (.afterMember members o) ',' = some (.key false members o) := rfl
    have hquote : step (.key false members o) '"' = some (.text (.key members) .plain [] o) := rfl
    have hvalue : run (.value false (.object members k :: o)) (write v ++ (writeMembers ms ++ rest)) =
        run (.afterMember ((k, v) :: members) o) (writeMembers ms ++ rest) :=
      run_write hv false (by simp [membersDepth] at ho ⊢; omega) fun _ => divides_writeMembers ms rest
    have hassoc : writeMembers ((k, v) :: ms) ++ rest =
        ',' :: '"' :: (k.toList.flatMap writeChar ++
          '"' :: ':' :: (write v ++ (writeMembers ms ++ rest))) := by
      simp [writeMembers, writeText]
    rw [hassoc, run, hcomma, Option.bind_some, run, hquote, Option.bind_some, run_writeKey, hvalue,
      run_writeMembers hms ((k, v) :: members) (by simp [membersDepth] at ho ⊢; omega) rest,
      List.reverse_cons, List.append_assoc, List.singleton_append]

end

mutual

theorem merged_eq_self {j : Json} (h : Everywhere IsProper j) : merged j = j := by
  cases j with
  | arr xs => rw [merged, mergedItems_eq_self fun x hx => h.item hx]
  | obj ms =>
    rw [merged, mergedMembers_eq_self fun m hm => h.member hm, mergeMembers_of_nodup h.self]
  | _ => rfl

theorem mergedItems_eq_self {xs : List Json} (h : ∀ x ∈ xs, Everywhere IsProper x) :
    mergedItems xs = xs := by
  cases xs with
  | nil => rfl
  | cons x xs =>
    obtain ⟨hx, hxs⟩ := List.forall_mem_cons.mp h
    rw [mergedItems, merged_eq_self hx, mergedItems_eq_self hxs]

theorem mergedMembers_eq_self {ms : List (String × Json)} (h : ∀ m ∈ ms, Everywhere IsProper m.2) :
    mergedMembers ms = ms := by
  cases ms with
  | nil => rfl
  | cons m ms =>
    obtain ⟨k, v⟩ := m
    obtain ⟨hv, hms⟩ := List.forall_mem_cons.mp h
    rw [mergedMembers, merged_eq_self hv, mergedMembers_eq_self hms]

end

/-- A proper value is read as it was written, if its doubles are and it is not too deep. -/
theorem ofText?_compact {j : Json} (h : Everywhere IsProper j) (hr : Everywhere Rereads j)
    (hd : j.depth ≤ maxOpen) : ofText? j.compact = some j := by
  by_cases hs : isScalar j
  · cases j with
    | null => rfl
    | bool t => cases t <;> rfl
    | int n =>
      rw [ofText?, compact, String.toList_ofList]
      exact congrArg (Option.map merged) (written?_int h.self.1 h.self.2)
    | float x => exact hr.self
    | _ => cases hs
  · have hrun : run start (write j ++ []) = run (complete j []) [] :=
      run_write (fun v hv => ⟨h v hv, hr v hv⟩) false (by simpa using hd) fun hs' => absurd hs' hs
    rw [List.append_nil] at hrun
    rw [ofText?, compact, String.toList_ofList, decode?, written?, hrun]
    exact congrArg some (merged_eq_self h)

mutual

theorem lowerKeys_eq_self {j : Json} (h : Everywhere IsProper j) (hl : Everywhere HasLowerKeys j) :
    lowerKeys j = j := by
  cases j with
  | arr xs => rw [lowerKeys, lowerItems_eq_self (fun x hx => h.item hx) fun x hx => hl.item hx]
  | obj ms =>
    rw [lowerKeys, lowerMembers_eq_self hl.self (fun m hm => h.member hm) fun m hm => hl.member hm,
      mergeMembers_of_nodup h.self]
  | _ => rfl

theorem lowerItems_eq_self {xs : List Json} (h : ∀ x ∈ xs, Everywhere IsProper x)
    (hl : ∀ x ∈ xs, Everywhere HasLowerKeys x) : lowerItems xs = xs := by
  cases xs with
  | nil => rfl
  | cons x xs =>
    obtain ⟨hx, hxs⟩ := List.forall_mem_cons.mp h
    obtain ⟨hlx, hlxs⟩ := List.forall_mem_cons.mp hl
    rw [lowerItems, lowerKeys_eq_self hx hlx, lowerItems_eq_self hxs hlxs]

theorem lowerMembers_eq_self {ms : List (String × Json)} (hk : ∀ k ∈ ms.map Prod.fst, Text.lowered k = k)
    (h : ∀ m ∈ ms, Everywhere IsProper m.2) (hl : ∀ m ∈ ms, Everywhere HasLowerKeys m.2) :
    lowerMembers ms = ms := by
  cases ms with
  | nil => rfl
  | cons m ms =>
    obtain ⟨k, v⟩ := m
    obtain ⟨hkey, hkeys⟩ := List.forall_mem_cons.mp hk
    obtain ⟨hv, hms⟩ := List.forall_mem_cons.mp h
    obtain ⟨hlv, hlms⟩ := List.forall_mem_cons.mp hl
    rw [lowerMembers, hkey, lowerKeys_eq_self hv hlv, lowerMembers_eq_self hkeys hms hlms]

end

end Utterance.Json
