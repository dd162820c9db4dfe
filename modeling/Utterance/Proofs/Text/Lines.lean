import Utterance.Proofs.Text.Blank
import Utterance.Text.Split

/-! Blanks around a text, marks in it, and what becomes of its lines when one more is written behind it. -/

namespace Utterance.Text

theorem trimStart_append {p : Char → Bool} {front cs : List Char} (hf : front.all p)
    (hc : ∀ c ∈ cs.head?, p c = false) : trimStart p (front ++ cs) = cs := by
  rw [trimStart, List.dropWhile_append_of_pos (by simpa using hf)]
  exact dropWhile_eq_self hc

theorem trimEnd_append {p : Char → Bool} {cs back : List Char} (hb : back.all p)
    (hc : ∀ c ∈ cs.getLast?, p c = false) : trimEnd p (cs ++ back) = cs := by
  have hs : trimStart p (back.reverse ++ cs.reverse) = cs.reverse :=
    trimStart_append (by simpa using hb) (by simpa using hc)
  rw [trimEnd, List.reverse_append, ← List.reverse_reverse cs]
  exact congrArg List.reverse (by rw [List.reverse_reverse]; exact hs)

/-- Blanks around a text with none at its ends are trimmed. -/
theorem trim_around {front cs back : List Char} (hf : front.all isBlank) (hb : back.all isBlank)
    (h : Bare cs) : trim (front ++ (cs ++ back)) = cs := by
  have hs : trimStart isBlank (front ++ (cs ++ back)) = trimStart isBlank (cs ++ back) := by
    rw [trimStart, trimStart, List.dropWhile_append_of_pos (by simpa using hf)]
  cases cs with
  | nil =>
    rw [trim, hs, List.nil_append]
    have hn : trimStart isBlank (back ++ []) = [] := trimStart_append hb (by rintro _ ⟨⟩)
    rw [List.append_nil] at hn
    rw [hn]
    rfl
  | cons c cs =>
    have hc : trimStart isBlank ([] ++ (c :: cs ++ back)) = c :: cs ++ back :=
      trimStart_append rfl (by rintro _ ⟨⟩; exact h.1 c rfl)
    rw [List.nil_append] at hc
    rw [trim, hs, hc, trimEnd_append hb h.2]

theorem trim_append {front cs : List Char} (hf : front.all isBlank) (h : Bare cs) :
    trim (front ++ cs) = cs := by
  have ht := trim_around hf (show ([] : List Char).all isBlank from rfl) h
  rwa [List.append_nil] at ht

theorem prefix_trimEnd (p : Char → Bool) (cs : List Char) : trimEnd p cs <+: cs := by
  have h := List.reverse_prefix.mpr (List.dropWhile_suffix (l := cs.reverse) p)
  rwa [List.reverse_reverse] at h

theorem prefix_trim {cs : List Char} (h : ∀ c ∈ cs.head?, isBlank c = false) : trim cs <+: cs := by
  rw [trim, trimStart, dropWhile_eq_self h]
  exact prefix_trimEnd _ cs

theorem trimStart_front {p : Char → Bool} {c : Char} (hc : p c = false) (front rest : List Char) :
    trimStart p (front ++ c :: rest) = trimStart p front ++ c :: rest := by
  induction front with
  | nil => simp [trimStart, hc]
  | cons d front ih =>
    by_cases hd : p d
    · simpa [trimStart, hd] using ih
    · simp [trimStart, hd]

theorem trimEnd_back {p : Char → Bool} {c : Char} (hc : p c = false) (front back : List Char) :
    trimEnd p (front ++ c :: back) = front ++ c :: trimEnd p back := by
  have h := trimStart_front hc back.reverse front.reverse
  rw [trimStart, trimStart] at h
  rw [trimEnd, trimEnd]
  simp [h]

theorem mem_of_mem_trim {c : Char} {cs : List Char} (h : c ∈ trim cs) : c ∈ cs :=
  (List.dropWhile_suffix _).subset ((prefix_trimEnd isBlank _).subset h)

theorem mem_trim_of_mem {c : Char} {cs : List Char} (h : c ∈ cs) (hc : isBlank c = false) : c ∈ trim cs := by
  obtain ⟨front, back, hfront, hback, htrim⟩ := exists_trim cs
  have hnot {ds : List Char} (hd : ds.all isBlank) : c ∉ ds := by
    intro hm
    rw [List.all_eq_true.mp hd c hm] at hc
    cases hc
  rw [htrim, List.mem_append, List.mem_append] at h
  rcases h with h | h | h
  · exact absurd h (hnot hfront)
  · exact h
  · exact absurd h (hnot hback)

/-! Marks. -/

theorem after?_append (lead cs : List Char) : after? lead (lead ++ cs) = some cs := by
  simp [after?]

theorem eq_of_after? {lead cs rest : List Char} (h : after? lead cs = some rest) :
    cs = lead ++ rest := by
  unfold after? at h
  split at h
  case isTrue hp =>
    obtain ⟨more, rfl⟩ := List.isPrefixOf_iff_prefix.mp hp
    rw [List.drop_left] at h
    rw [Option.some.inj h]
  case isFalse => cases h

theorem not_isPrefixOf_of_cut? {mark : List Char} {c : Char} {cs : List Char}
    (h : cut? mark (c :: cs) = none) : mark.isPrefixOf (c :: cs) = false ∧ cut? mark cs = none := by
  rw [cut?] at h
  cases ha : after? mark (c :: cs) with
  | some tail =>
    rw [ha] at h
    cases h
  | none =>
    rw [ha] at h
    refine ⟨?_, by simpa using h⟩
    refine Bool.of_not_eq_true fun hp => ?_
    rw [after?, if_pos hp] at ha
    cases ha

theorem cut?_cons {mark : List Char} {c : Char} {cs : List Char} (h : ¬mark <+: c :: cs) :
    cut? mark (c :: cs) = (cut? mark cs).map (Prod.map (c :: ·) id) := by
  have ha : after? mark (c :: cs) = none := if_neg (mt List.isPrefixOf_iff_prefix.mp h)
  rw [cut?, ha]
  rfl

/-- Behind characters with which no mark begins, the first mark is found as without them. -/
theorem cut?_behind {c : Char} {mark front : List Char} (h : c ∉ front) (cs : List Char) :
    cut? (c :: mark) (front ++ cs) = (cut? (c :: mark) cs).map (Prod.map (front ++ ·) id) := by
  induction front with
  | nil => exact (congrFun Option.map_id (cut? (c :: mark) cs)).symm
  | cons d front ih =>
    obtain ⟨hd, hfront⟩ := not_or.mp (mt List.mem_cons.mpr h)
    have hno : ¬c :: mark <+: d :: (front ++ cs) := fun hp => hd (List.cons_prefix_cons.mp hp).1
    rw [List.cons_append, cut?_cons hno, ih hfront, Option.map_map]
    rfl

theorem cut?_mark {c : Char} (mark cs : List Char) :
    cut? (c :: mark) (c :: mark ++ cs) = some ([], cs) := by
  have ha := after?_append (c :: mark) cs
  rw [List.cons_append] at ha ⊢
  rw [cut?, ha]

/-- A mark does not reach over a character that it does not have. -/
theorem prefix_of_prefix_over {mark front cs : List Char} {c : Char} (hc : c ∉ mark)
    (h : mark <+: front ++ c :: cs) : mark <+: front := by
  rcases List.prefix_or_prefix_of_prefix h (List.prefix_append _ _) with hp | ⟨back, rfl⟩
  · exact hp
  · rw [List.prefix_append_right_inj] at h
    cases back with
    | nil => exact ⟨[], by simp⟩
    | cons b back =>
      obtain ⟨rfl, -⟩ := List.cons_prefix_cons.mp h
      exact absurd (List.mem_append_right _ List.mem_cons_self) hc

/-- A mark is the first one behind a text without marks, where a character stands between that none has. -/
theorem cut?_separated {mark front : List Char} {c : Char} (hf : cut? mark front = none) (hc : c ∉ mark)
    (cs : List Char) :
    cut? mark (front ++ c :: (mark ++ cs)) = some (front ++ [c], cs) := by
  obtain ⟨m, more, rfl⟩ : ∃ m more, mark = m :: more := by
    cases mark with
    | nil => cases front <;> cases hf
    | cons m more => exact ⟨m, more, rfl⟩
  induction front with
  | nil =>
    have hm : m ∉ [c] := by
      rw [List.mem_singleton]
      exact fun h => hc (h ▸ List.mem_cons_self)
    have hcut : cut? (m :: more) ([c] ++ (m :: more ++ cs)) = some ([c], cs) := by
      rw [cut?_behind hm, cut?_mark]
      rfl
    exact hcut
  | cons d front ih =>
    obtain ⟨hd, hfront⟩ := not_isPrefixOf_of_cut? hf
    have hno : ¬m :: more <+: d :: front ++ c :: (m :: more ++ cs) := by
      intro hp
      rw [List.isPrefixOf_iff_prefix.mpr (prefix_of_prefix_over hc hp)] at hd
      cases hd
    rw [List.cons_append] at hno ⊢
    rw [cut?_cons hno, ih hfront]
    rfl

theorem without_of_cut? {mark more cs : List Char} (h : cut? mark cs = none) :
    without (mark ++ more) cs = cs := by
  unfold without
  induction cs with
  | nil => rfl
  | cons c cs ih =>
    obtain ⟨hp, hcs⟩ := not_isPrefixOf_of_cut? h
    have hmore : ¬(mark ++ more).isPrefixOf (c :: cs) = true := by
      intro hm
      have hmark : mark <+: c :: cs := (List.prefix_append mark more).trans (List.isPrefixOf_iff_prefix.mp hm)
      rw [List.isPrefixOf_iff_prefix.mpr hmark] at hp
      cases hp
    rw [withoutFrom, if_neg hmore, ih hcs]

/-! Lines. -/

theorem splitWhere_of_none {p : Char → Bool} {cs : List Char} (h : ∀ c ∈ cs, p c = false) :
    splitWhere p cs = [cs] := by
  induction cs with
  | nil => rfl
  | cons c cs ih =>
    obtain ⟨hc, hcs⟩ := List.forall_mem_cons.mp h
    rw [splitWhere, if_neg (by simp [hc]), ih hcs]

theorem splitWhere_ne_nil (p : Char → Bool) (cs : List Char) : splitWhere p cs ≠ [] := by
  cases cs with
  | nil => exact List.cons_ne_nil _ _
  | cons c cs =>
    unfold splitWhere
    split
    · exact List.cons_ne_nil _ _
    · split <;> exact List.cons_ne_nil _ _

theorem mem_of_mem_splitWhere {p : Char → Bool} {cs piece : List Char} (h : piece ∈ splitWhere p cs) {c : Char}
    (hc : c ∈ piece) : c ∈ cs := by
  induction cs generalizing piece with
  | nil =>
    obtain rfl := List.mem_singleton.mp h
    exact hc
  | cons d cs ih =>
    obtain ⟨first, others, hs⟩ := List.exists_cons_of_ne_nil (splitWhere_ne_nil p cs)
    rw [hs] at ih
    rw [splitWhere, hs] at h
    split at h
    · rcases List.mem_cons.mp h with rfl | h
      · cases hc
      · exact List.mem_cons_of_mem _ (ih h hc)
    · rcases List.mem_cons.mp h with rfl | h
      · rcases List.mem_cons.mp hc with rfl | hc
        · exact List.mem_cons_self
        · exact List.mem_cons_of_mem _ (ih List.mem_cons_self hc)
      · exact List.mem_cons_of_mem _ (ih (List.mem_cons_of_mem _ h) hc)

theorem splitWhere_append {p : Char → Bool} {c : Char} (hc : p c) (cs ds : List Char) :
    splitWhere p (cs ++ c :: ds) = splitWhere p cs ++ splitWhere p ds := by
  induction cs with
  | nil =>
    show splitWhere p (c :: ds) = [] :: splitWhere p ds
    rw [splitWhere, if_pos hc]
  | cons d cs ih =>
    rw [List.cons_append, splitWhere, splitWhere]
    split
    · rw [ih, List.cons_append]
    · obtain ⟨first, others, h⟩ := List.exists_cons_of_ne_nil (splitWhere_ne_nil p cs)
      rw [ih, h]
      rfl

/-- There is one piece more than there are separators. -/
theorem length_splitWhere (p : Char → Bool) (cs : List Char) : (splitWhere p cs).length = cs.countP p + 1 := by
  induction cs with
  | nil => rfl
  | cons c cs ih =>
    obtain ⟨first, others, h⟩ := List.exists_cons_of_ne_nil (splitWhere_ne_nil p cs)
    rw [h] at ih
    rw [splitWhere, h]
    split
    case isTrue hc => rw [List.length_cons, ih, List.countP_cons_of_pos hc]
    case isFalse hc => rw [List.countP_cons_of_neg hc, ← ih, List.length_cons, List.length_cons]

theorem join_cons (mark s t : String) (rest : List String) :
    join mark (s :: t :: rest) = s ++ mark ++ join mark (t :: rest) := rfl

theorem mem_of_mem_join {mark : String} {texts : List String} {c : Char} (h : c ∈ (join mark texts).toList) :
    c ∈ mark.toList ∨ ∃ s ∈ texts, c ∈ s.toList := by
  induction texts with
  | nil => cases h
  | cons s texts ih =>
    cases texts with
    | nil => exact .inr ⟨s, List.mem_singleton_self s, h⟩
    | cons t texts =>
      rw [join_cons, String.toList_append, String.toList_append] at h
      rcases List.mem_append.mp h with h | h
      · rcases List.mem_append.mp h with h | h
        · exact .inr ⟨s, List.mem_cons_self, h⟩
        · exact .inl h
      · exact (ih h).imp_right fun ⟨u, hu, hc⟩ => ⟨u, List.mem_cons_of_mem s hu, hc⟩

/-- The pieces between line feeds, joined by line feeds, are the text. -/
theorem toList_join_splitWhere (cs : List Char) :
    (join "\n" ((splitWhere (· == '\n') cs).map String.ofList)).toList = cs := by
  induction cs with
  | nil => rfl
  | cons c cs ih =>
    obtain ⟨first, others, h⟩ := List.exists_cons_of_ne_nil (splitWhere_ne_nil (· == '\n') cs)
    rw [h, List.map_cons] at ih
    rw [splitWhere, h]
    split
    case isTrue hc =>
      rw [List.map_cons, List.map_cons, join_cons, String.toList_append, ih, beq_iff_eq.mp hc]
      rfl
    case isFalse =>
      cases others with
      | nil =>
        have hfirst : first = cs := by simpa [join] using ih
        simp [join, hfirst]
      | cons next others =>
        rw [List.map_cons, join_cons] at ih
        rw [List.map_cons, List.map_cons, join_cons, ← ih]
        simp

/-- Texts without a mark are what stands between the marks by which they are joined. -/
theorem splitWhere_join {m : Char} {texts : List String} (hne : texts ≠ []) (h : ∀ s ∈ texts, m ∉ s.toList) :
    splitWhere (· == m) (join (String.singleton m) texts).toList = texts.map String.toList := by
  have hpiece {s : String} (hs : m ∉ s.toList) : splitWhere (· == m) s.toList = [s.toList] :=
    splitWhere_of_none fun c hc => beq_eq_false_iff_ne.mpr fun he => hs (he ▸ hc)
  induction texts with
  | nil => exact absurd rfl hne
  | cons s texts ih =>
    obtain ⟨hs, htexts⟩ := List.forall_mem_cons.mp h
    cases texts with
    | nil => exact hpiece hs
    | cons t texts =>
      rw [join_cons, String.append_assoc, String.toList_append, String.toList_append, String.toList_singleton,
        List.singleton_append, splitWhere_append (p := (· == m)) (beq_self_eq_true m), hpiece hs,
        ih (List.cons_ne_nil _ _) htexts]
      rfl

/-- A text up to its last line feed. -/
def closedLines (cs : List Char) : List Char :=
  (cs.reverse.dropWhile (· != '\n')).reverse

/-- What follows the last line feed of a text. -/
def openLine (cs : List Char) : List Char :=
  (cs.reverse.takeWhile (· != '\n')).reverse

theorem closedLines_append_openLine (cs : List Char) : closedLines cs ++ openLine cs = cs := by
  rw [closedLines, openLine, ← List.reverse_append, List.takeWhile_append_dropWhile, List.reverse_reverse]

theorem newline_not_mem_openLine (cs : List Char) : '\n' ∉ openLine cs := by
  intro h
  have hm : '\n' ∈ cs.reverse.takeWhile (· != '\n') := List.mem_reverse.mp h
  exact absurd (List.all_eq_true.mp List.all_takeWhile _ hm) (by decide)

theorem closedLines_cases (cs : List Char) :
    closedLines cs = [] ∨ ∃ front, closedLines cs = front ++ ['\n'] := by
  unfold closedLines
  cases hd : cs.reverse.dropWhile (· != '\n') with
  | nil => exact .inl rfl
  | cons c back =>
    have hm : c ∈ (cs.reverse.dropWhile (· != '\n')).head? := by
      rw [hd]
      rfl
    have hc : c = '\n' := by simpa using head?_dropWhile c hm
    exact .inr ⟨back.reverse, by rw [List.reverse_cons, hc]⟩

/-- The text up to its last feed is split by itself. -/
theorem exists_splitWhere_closedLines (cs : List Char) :
    ∃ ended, splitWhere (· == '\n') (closedLines cs) = ended ++ [[]] ∧
      ∀ rest, splitWhere (· == '\n') (closedLines cs ++ rest) = ended ++ splitWhere (· == '\n') rest := by
  obtain h | ⟨front, h⟩ := closedLines_cases cs
  · exact ⟨[], by rw [h]; rfl, fun rest => by rw [h]; rfl⟩
  · refine ⟨splitWhere (· == '\n') front, ?_, fun rest => ?_⟩
    · rw [h, splitWhere_append rfl]
      rfl
    · rw [h, List.append_assoc, List.singleton_append, splitWhere_append rfl]

/-- A line as it is given, without a carriage return at its end. -/
def lineBefore (l : List Char) : List Char :=
  if l.getLast? == some '\r' then l.dropLast else l

theorem lines_of_splitWhere {cs last : List Char} {ended : List (List Char)}
    (h : splitWhere (· == '\n') cs = ended ++ [last]) :
    lines cs = ended.map lineBefore ++ if last.isEmpty then [] else [last] := by
  rw [lines, h, List.reverse_concat]
  dsimp only
  rw [List.reverse_reverse]
  split
  · rw [List.append_nil]
    rfl
  · rfl

theorem lines_ended {line : List Char} (hn : '\n' ∉ line) (rest : List Char) :
    lines (line ++ '\n' :: rest) = lineBefore line :: lines rest := by
  have hline : ∀ c ∈ line, (c == '\n') = false := fun c hc =>
    beq_eq_false_iff_ne.mpr fun he => hn (he ▸ hc)
  obtain ⟨ended, last, hrest⟩ : ∃ ended last, splitWhere (· == '\n') rest = ended ++ [last] :=
    ⟨_, _, (List.dropLast_concat_getLast (splitWhere_ne_nil _ rest)).symm⟩
  have hall : splitWhere (· == '\n') (line ++ '\n' :: rest) = line :: ended ++ [last] := by
    rw [splitWhere_append rfl, splitWhere_of_none hline, hrest]
    rfl
  rw [lines_of_splitWhere hall, lines_of_splitWhere hrest, List.map_cons, List.cons_append]

theorem lines_cons {line : List Char} (hn : '\n' ∉ line) (hl : line.getLast? ≠ some '\r') (rest : List Char) :
    lines (line ++ '\n' :: rest) = line :: lines rest := by
  have hkept : lineBefore line = line := if_neg (by simpa using hl)
  rw [lines_ended hn, hkept]

theorem sublist_lineBefore (line : List Char) : (lineBefore line).Sublist line := by
  unfold lineBefore
  split
  · exact List.dropLast_sublist line
  · exact .refl line

/-- Lines are read as they are joined, whatever stands behind them. -/
theorem lines_join_concat {ls : List String} (h : ∀ l ∈ ls, '\n' ∉ l.toList) (last : String) :
    lines (join "\n" (ls ++ [last])).toList = ls.map (fun l => lineBefore l.toList) ++ lines last.toList := by
  induction ls with
  | nil => rfl
  | cons l ls ih =>
    obtain ⟨hl, hls⟩ := List.forall_mem_cons.mp h
    obtain ⟨next, others, hrest⟩ := List.exists_cons_of_ne_nil (List.concat_ne_nil last ls)
    have hjoin : (join "\n" (l :: (ls ++ [last]))).toList =
        l.toList ++ '\n' :: (join "\n" (ls ++ [last])).toList := by
      rw [hrest, join_cons, String.toList_append, String.toList_append, List.append_assoc]
      rfl
    rw [List.cons_append, hjoin, lines_ended hl, ih hls, List.map_cons, List.cons_append]

/-- A text without a line feed is a line, if there is one. -/
theorem lines_open {cs : List Char} (hn : '\n' ∉ cs) : lines cs = if cs.isEmpty then [] else [cs] := by
  have hcs : ∀ c ∈ cs, (c == '\n') = false := fun c hc =>
    beq_eq_false_iff_ne.mpr fun he => hn (he ▸ hc)
  have hall : splitWhere (· == '\n') cs = [] ++ [cs] := splitWhere_of_none hcs
  exact lines_of_splitWhere hall

/-- The lines of a text without carriage returns that does not end in a line feed, joined by line feeds, are
the text. -/
theorem toList_join_lines {cs : List Char} (hreturn : '\r' ∉ cs) (hfeed : cs.getLast? ≠ some '\n') :
    (join "\n" ((lines cs).map String.ofList)).toList = cs := by
  obtain ⟨ended, -, hsplit⟩ := exists_splitWhere_closedLines cs
  have hopen : ∀ c ∈ openLine cs, (c == '\n') = false := fun c hc =>
    beq_eq_false_iff_ne.mpr fun he => newline_not_mem_openLine cs (he ▸ hc)
  have hpieces : splitWhere (· == '\n') cs = ended ++ [openLine cs] := by
    have h := hsplit (openLine cs)
    rwa [closedLines_append_openLine, splitWhere_of_none hopen] at h
  cases hlast : openLine cs with
  | nil =>
    have hclosed : closedLines cs = cs := by
      have h := closedLines_append_openLine cs
      rwa [hlast, List.append_nil] at h
    obtain h | ⟨front, h⟩ := closedLines_cases cs
    · rw [← hclosed, h]
      rfl
    · rw [hclosed] at h
      rw [h, List.getLast?_concat] at hfeed
      exact absurd rfl hfeed
  | cons d ds =>
    have hkept : ended.map lineBefore = ended := by
      refine (List.map_congr_left fun l hl => if_neg fun hr => hreturn ?_).trans (List.map_id ended)
      have hpiece : l ∈ splitWhere (· == '\n') cs := hpieces ▸ List.mem_append_left _ hl
      exact mem_of_mem_splitWhere hpiece (List.mem_of_getLast? (beq_iff_eq.mp hr))
    have hlines : lines cs = splitWhere (· == '\n') cs := by
      rw [lines_of_splitWhere hpieces, hkept, hpieces, hlast]
      rfl
    rw [hlines]
    exact toList_join_splitWhere cs

/-- A line that is written behind a text goes on with what follows its last line feed. -/
theorem lines_append {cs line : List Char} (hn : '\n' ∉ line) (hl : line.getLast? ≠ some '\r')
    (hne : line ≠ []) :
    lines (cs ++ line ++ ['\n']) = lines (closedLines cs) ++ [openLine cs ++ line] := by
  have hopen : ∀ c ∈ openLine cs ++ line, (c == '\n') = false := by
    intro c hc
    rw [beq_eq_false_iff_ne]
    rintro rfl
    exact (List.mem_append.mp hc).elim (newline_not_mem_openLine cs) hn
  have hkept : lineBefore (openLine cs ++ line) = openLine cs ++ line := by
    refine if_neg ?_
    rw [List.getLast?_append, List.getLast?_eq_some_getLast hne, Option.some_or,
      ← List.getLast?_eq_some_getLast hne]
    simpa using hl
  obtain ⟨ended, hclosed⟩ := exists_splitWhere_closedLines cs
  have hall : splitWhere (· == '\n') (cs ++ line ++ ['\n']) =
      ended ++ [openLine cs ++ line] ++ [[]] := by
    have hcs : cs ++ line ++ ['\n'] = closedLines cs ++ ((openLine cs ++ line) ++ '\n' :: []) := by
      conv =>
        lhs
        rw [← closedLines_append_openLine cs]
      simp
    rw [hcs, hclosed.2, splitWhere_append rfl, splitWhere_of_none hopen, List.append_assoc]
    rfl
  rw [lines_of_splitWhere hall, lines_of_splitWhere hclosed.1, List.map_append, List.map_singleton,
    hkept, if_pos List.isEmpty_nil, List.append_nil, List.append_nil]

end Utterance.Text
