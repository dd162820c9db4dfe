import Utterance.LineReply
import Utterance.Proofs.Intent
import Utterance.Proofs.Text.Lines

/-! A reply that states a request in one line is read as what it states, whatever stands above the line and below
it. -/

namespace Utterance

theorem Category.parse?_write (c : Category) : parse? c.write = some c := by
  cases c <;> decide

theorem Category.bare_write (c : Category) : Text.Bare c.write.toList := by
  cases c <;> refine ⟨?_, ?_⟩ <;> rintro _ ⟨⟩ <;> rfl

/-- A verb in its one form has no blanks around it. -/
theorem bare_of_normalizeVerb {s : String} (h : normalizeVerb s = s) : Text.Bare s.toList := by
  have hb : Text.Bare ((Text.trim s.toList).map Char.toLower) := (Text.trim_bare _).map_toLower
  generalize hv : (Text.trim s.toList).map Char.toLower = v at hb
  obtain hn | ⟨t, rfl, hn⟩ | ⟨hne, hn⟩ := normalizeVerb_cases hv
  · rw [← h, hn]
    exact ⟨by rintro _ ⟨⟩, by rintro _ ⟨⟩⟩
  · rw [← h, hn, String.toList_ofList]
    exact hb
  · rw [← h, hn, String.toList_ofList]
    exact bare_slash hb hne

namespace LineReply

/-! The fields of a line. -/

/-- Backticks stand around a line. -/
def isTick (c : Char) : Bool := c == '`'

theorem fields_eq (line : List Char) :
    fields line =
      (Text.splitWhere (· == '|') (Text.trimEnd isTick (Text.trimStart isTick (Text.trim line)))).map Text.trim :=
  rfl

/-- A line without backticks and blanks around it is cut at its bars. -/
theorem fields_bare {line : List Char} (hbare : Text.Bare line) (hhead : ∀ c ∈ line.head?, isTick c = false)
    (hlast : ∀ c ∈ line.getLast?, isTick c = false) :
    fields line = (Text.splitWhere (· == '|') line).map Text.trim := by
  have hstart : Text.trimStart isTick line = line := Text.dropWhile_eq_self hhead
  have hend : Text.trimEnd isTick line = line := by
    have h : Text.trimEnd isTick (line ++ []) = line := Text.trimEnd_append rfl hlast
    rwa [List.append_nil] at h
  rw [fields_eq, Text.trim_eq_self hbare, hstart, hend]

/-- A line has at most one field more than bars. -/
theorem length_fields_le (line : List Char) : (fields line).length ≤ line.count '|' + 1 := by
  have htrim : (Text.trim line).Sublist line :=
    (Text.prefix_trimEnd _ _).sublist.trans (List.dropWhile_sublist _)
  have hbare : (Text.trimEnd isTick (Text.trimStart isTick (Text.trim line))).Sublist line :=
    ((Text.prefix_trimEnd _ _).sublist.trans (List.dropWhile_sublist _)).trans htrim
  rw [fields_eq, List.length_map, Text.length_splitWhere]
  exact Nat.succ_le_succ hbare.countP_le

/-- Lines that have too few fields are passed over. -/
theorem find?_append {before : List (List Char)} (h : ∀ l ∈ before, (fields l).length < leastFields)
    (lines : List (List Char)) : find? (before ++ lines) = find? lines := by
  induction before with
  | nil => rfl
  | cons l before ih =>
    obtain ⟨hl, hbefore⟩ := List.forall_mem_cons.mp h
    rw [List.cons_append, find?, if_neg (Nat.not_le.mpr hl)]
    exact ih hbefore

/-! Replies that state a request. -/

/-- A text that may stand between bars in one line. -/
def IsPlain (s : String) : Prop :=
  ∀ c ∈ s.toList, c ≠ '|' ∧ c ≠ '\r' ∧ c ≠ '\n'

instance (s : String) : Decidable (IsPlain s) :=
  List.decidableBAll (fun c => c ≠ '|' ∧ c ≠ '\r' ∧ c ≠ '\n') s.toList

/-- What a line can state of a request so that it is read as it was meant. The constraint stands at the end of the
line, where backticks are left out, and the word for none stands for nothing there. -/
structure IsStatable (verb target constraint : String) : Prop where
  normal : normalizeVerb verb = verb
  verb_ne : verb ≠ "" ∧ verb ≠ "/"
  verb : IsPlain verb
  target_trimmed : Text.trimmed target = target
  target_ne : target ≠ ""
  target : IsPlain target
  constraint_trimmed : Text.trimmed constraint = constraint
  constraint_ne : constraint.toList.map Char.toLower ≠ "none".toList
  constraint_last : constraint.toList.getLast? ≠ some '`'
  constraint : IsPlain constraint

/-- The line that states a request. -/
def statement (category : Category) (verb target constraint : String) : String :=
  Text.join "|" [category.write, verb, target, constraint]

/-- Lines, the line that states a request, and a response below it. -/
def write (before : List String) (category : Category) (verb target constraint response : String) : String :=
  Text.join "\n" (before ++ [statement category verb target constraint, response])

theorem bare_of_trimmed {s : String} (h : Text.trimmed s = s) : Text.Bare s.toList := by
  rw [← h, Text.trimmed, String.toList_ofList]
  exact Text.trim_bare _

theorem isPlain_write (category : Category) : IsPlain category.write := by
  cases category <;> decide

section

variable (category : Category) {verb target constraint : String} (h : IsStatable verb target constraint)
include h

theorem isPlain_field : ∀ s ∈ [category.write, verb, target, constraint], IsPlain s := by
  rintro s (_ | ⟨_, _ | ⟨_, _ | ⟨_, _ | ⟨_, ⟨⟩⟩⟩⟩⟩)
  · exact isPlain_write category
  · exact h.verb
  · exact h.target
  · exact h.constraint

theorem bare_field : ∀ s ∈ [category.write, verb, target, constraint], Text.Bare s.toList := by
  rintro s (_ | ⟨_, _ | ⟨_, _ | ⟨_, _ | ⟨_, ⟨⟩⟩⟩⟩⟩)
  · exact category.bare_write
  · exact bare_of_normalizeVerb h.normal
  · exact bare_of_trimmed h.target_trimmed
  · exact bare_of_trimmed h.constraint_trimmed

omit h in
theorem toList_statement : (statement category verb target constraint).toList =
    category.write.toList ++ '|' :: verb.toList ++ '|' :: target.toList ++ '|' :: constraint.toList := by
  simp [statement, Text.join]

omit h in
theorem head?_statement : (statement category verb target constraint).toList.head? = some '/' := by
  rw [toList_statement]
  cases category <;> rfl

/-- What stands last in the line is a bar, or the end of the constraint. -/
theorem getLast?_statement {c : Char} (hc : c ∈ (statement category verb target constraint).toList.getLast?) :
    c ≠ '`' ∧ Text.isBlank c = false := by
  rw [toList_statement, List.getLast?_append, List.getLast?_cons] at hc
  cases hlast : constraint.toList.getLast? with
  | none =>
    rw [hlast] at hc
    cases hc
    exact ⟨by decide, by decide⟩
  | some d =>
    rw [hlast] at hc
    cases hc
    refine ⟨?_, (bare_of_trimmed h.constraint_trimmed).2 _ hlast⟩
    rintro rfl
    exact h.constraint_last hlast

theorem fields_statement : fields (statement category verb target constraint).toList =
    [category.write, verb, target, constraint].map String.toList := by
  have hhead {c : Char} (hc : c ∈ (statement category verb target constraint).toList.head?) : c = '/' := by
    rw [head?_statement] at hc
    exact (Option.some.inj hc).symm
  have hbare : Text.Bare (statement category verb target constraint).toList := by
    refine ⟨fun c hc => ?_, fun c hc => (getLast?_statement category h hc).2⟩
    rw [hhead hc]
    decide
  have hcut := Text.splitWhere_join (m := '|') (List.cons_ne_nil _ _) fun s hs hbar =>
    (isPlain_field category h s hs '|' hbar).1 rfl
  rw [fields_bare hbare (fun _ hc => by rw [hhead hc]; decide)
    fun _ hc => beq_eq_false_iff_ne.mpr (getLast?_statement category h hc).1]
  refine (congrArg (List.map Text.trim) hcut).trans ?_
  rw [List.map_map]
  exact List.map_congr_left fun s hs => Text.trim_eq_self (bare_field category h s hs)

theorem newline_not_mem_statement : '\n' ∉ (statement category verb target constraint).toList := by
  intro hmem
  rcases Text.mem_of_mem_join hmem with hbar | ⟨s, hs, hfeed⟩
  · exact absurd hbar (by decide)
  · exact (isPlain_field category h s hs '\n' hfeed).2.2 rfl

theorem lineBefore_statement : Text.lineBefore (statement category verb target constraint).toList =
    (statement category verb target constraint).toList := by
  refine if_neg fun hlast => ?_
  have hblank := (getLast?_statement category h (beq_iff_eq.mp hlast)).2
  exact absurd hblank (by decide)

/-- The line is the first one that counts below lines with fewer bars. -/
theorem find?_write {before : List String} (hbefore : ∀ l ∈ before, '\n' ∉ l.toList ∧ l.toList.count '|' < 3)
    (response : String) : find? (Text.lines (write before category verb target constraint response).toList) =
      some ([category.write, verb, target, constraint].map String.toList, Text.lines response.toList) := by
  have hfeeds : ∀ l ∈ before ++ [statement category verb target constraint], '\n' ∉ l.toList := by
    intro l hl
    rcases List.mem_append.mp hl with hl | hl
    · exact (hbefore l hl).1
    · rw [List.mem_singleton.mp hl]
      exact newline_not_mem_statement category h
  have hfew : ∀ l ∈ before.map fun l => Text.lineBefore l.toList, (fields l).length < leastFields := by
    intro l hl
    obtain ⟨t, ht, rfl⟩ := List.mem_map.mp hl
    have hbars : (Text.lineBefore t.toList).count '|' ≤ t.toList.count '|' :=
      (Text.sublist_lineBefore t.toList).count_le '|'
    have hle := length_fields_le (Text.lineBefore t.toList)
    have hlt := (hbefore t ht).2
    have hleast : leastFields = 4 := rfl
    omega
  have hwrite : write before category verb target constraint response =
      Text.join "\n" ((before ++ [statement category verb target constraint]) ++ [response]) := by
    rw [write, List.append_assoc]
    rfl
  rw [hwrite, Text.lines_join_concat hfeeds, List.map_append, List.append_assoc, find?_append hfew,
    List.map_singleton, lineBefore_statement category h, List.singleton_append, find?,
    fields_statement category h]
  exact if_pos (Nat.le_refl 4)

end

/-- A reply is read as what it states. Lines above with too few bars are passed over, whatever else they hold, and
all that stands below is the response, bars and all. -/
theorem read?_write (category : Category) {verb target constraint : String} (h : IsStatable verb target constraint)
    {before : List String} (hbefore : ∀ l ∈ before, '\n' ∉ l.toList ∧ l.toList.count '|' < 3)
    {response : String} (htrimmed : Text.trimmed response = response) (hreturn : '\r' ∉ response.toList) :
    read? (write before category verb target constraint response) =
      some ⟨category, verb, target, constraint, 0.6, response, [], []⟩ := by
  have hresponse : Text.join "\n" ((Text.lines response.toList).map String.ofList) = response := by
    refine String.toList_inj.mp (Text.toList_join_lines hreturn fun hlast => ?_)
    have hblank := (bare_of_trimmed htrimmed).2 '\n' hlast
    exact absurd hblank (by decide)
  have hverb : (verb.isEmpty || verb == "/") = false := by
    simpa using h.verb_ne
  have htarget : target.toList.isEmpty = false := by
    simpa using h.target_ne
  have hconstraint : isNone constraint.toList = false := beq_eq_false_iff_ne.mpr h.constraint_ne
  unfold read?
  rw [find?_write category h hbefore]
  simp only [List.map_cons, List.map_nil, Option.bind_eq_bind, Option.bind_some, String.ofList_toList,
    Category.parse?_write, h.normal, hverb, htarget, hconstraint, hresponse, htrimmed, Bool.false_eq_true, if_false]
  rfl

/-- Two lines above a request. -/
def chatter : List String := ["As you | wish:\r", "`one` | two |"]

theorem read?_write_chatter :
    IsStatable "/fix" "`auth`.go" "keep `it` small" ∧
    read? "As you | wish:\r\n`one` | two |\n/mutation|/fix|`auth`.go|keep `it` small\nDone.\n\na|b|c|d" =
      some ⟨.mutation, "/fix", "`auth`.go", "keep `it` small", 0.6, "Done.\n\na|b|c|d", [], []⟩ := by
  have hstatable : IsStatable "/fix" "`auth`.go" "keep `it` small" := by
    constructor <;> decide
  have hbefore : ∀ l ∈ chatter, '\n' ∉ l.toList ∧ l.toList.count '|' < 3 := by decide
  have htext : write chatter .mutation "/fix" "`auth`.go" "keep `it` small" "Done.\n\na|b|c|d" =
      "As you | wish:\r\n`one` | two |\n/mutation|/fix|`auth`.go|keep `it` small\nDone.\n\na|b|c|d" := by decide
  refine ⟨hstatable, ?_⟩
  rw [← htext]
  exact read?_write .mutation hstatable hbefore (by decide) (by decide)

end LineReply

end Utterance
