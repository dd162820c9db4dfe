import Utterance.Proofs.Frame
import Utterance.Semantic.Classifier

/-! The index of learned phrases is at all times the one that the store would give when it is read again. -/

namespace Utterance

open Semantic (Index)

/-! Stores. -/

/-- An entry with its confidence as a column gives it back. -/
def Semantic.Entry.through (column : Float → Float) (e : Semantic.Entry) : Semantic.Entry :=
  { e with phrase := { e.phrase with confidence := column e.phrase.confidence } }

/-- Indexes of the same entries in the same order, once their confidences went through a column. -/
def Semantic.SameThrough (column : Float → Float) (xs ys : Index) : Prop :=
  xs.map (·.through column) = ys.map (·.through column)

theorem Semantic.sameThrough_id {xs ys : Index} : SameThrough id xs ys ↔ xs = ys := by
  have hid : (fun e : Entry => e.through id) = id := rfl
  rw [SameThrough, hid, List.map_id, List.map_id]

variable {W : Type}

/-- A store that holds the entries `contents`, and gives back what it was given but for what its column
makes of a confidence. It adds an entry at the end or fails without effect, and the index in memory is
no part of it. -/
structure Store.Keeps (store : Store W) (contents : W → Index) (column : Float → Float)
    (learned : Part W Index) : Prop where
  column_column : ∀ x, column (column x) = column x
  entries : ∀ {xs w v}, store.entries.on w = (.ok xs, v) →
    xs = contents w ∧ contents v = contents w
  added : ∀ {e w v}, (store.addEntry e).on w = (.ok (), v) →
    contents v = contents w ++ [e.through column] ∧ learned.read v = learned.read w
  refused : ∀ {e f w v}, (store.addEntry e).on w = (.error f, v) →
    contents v = contents w ∧ learned.read v = learned.read w
  apart : ∀ xs w, contents (learned.write xs w) = contents w

namespace Shelf

variable {shelf : Part W Shelf} {learned : Part W Index}

/-- A shelf gives back what it was given. -/
theorem keeps_store (hs : shelf.Retains) (hl : ∀ s w, learned.read (shelf.write s w) = learned.read w)
    (hr : ∀ xs w, shelf.read (learned.write xs w) = shelf.read w) :
    (store shelf).Keeps (fun w => (shelf.read w).entries) id learned where
  column_column _ := rfl
  entries h := by
    cases h
    exact ⟨rfl, rfl⟩
  added h := by
    cases h
    exact ⟨congrArg Shelf.entries (hs _ _), hl _ _⟩
  refused h := by cases h
  apart xs w := congrArg Shelf.entries (hr xs w)

theorem column_column (x : Float) : column (column x) = column x := by
  unfold column
  split
  · split <;> rfl
  · rfl

/-- The table of a database gives back what it was given, but for the sign of a zero. -/
theorem keeps_database (hs : shelf.Retains) (hl : ∀ s w, learned.read (shelf.write s w) = learned.read w)
    (hr : ∀ xs w, shelf.read (learned.write xs w) = shelf.read w) :
    (database shelf).Keeps (fun w => (shelf.read w).entries) column learned where
  column_column := column_column
  entries h := by
    cases h
    exact ⟨rfl, rfl⟩
  added {e w v} h := by
    simp only [database] at h
    split at h
    · cases h
    · cases h
      exact ⟨congrArg Shelf.entries (hs _ _), hl _ _⟩
  refused {e f w v} h := by
    simp only [database] at h
    split at h
    · cases h
      exact ⟨rfl, rfl⟩
    · cases h
  apart xs w := congrArg Shelf.entries (hr xs w)

end Shelf

/-! The index. -/

namespace Classifier

/-- Reads the index of learned phrases from the store. -/
def reopen (c : Classifier W) : Act W Unit := do
  let entries ← c.store.entries
  c.learned.change fun _ => indexed c.embedder.dimensions entries

/-- A classifier is built with the given phrases and an index that is read from the store. -/
theorem build_eq (watch : Watch W) (embedder : Embedder W) (kernel : Kernel W) (store : Store W)
    (learned : Part W Index) (tuning : Tuning) :
    build watch embedder kernel store learned tuning =
      hydrate watch embedder kernel >>= fun embedded =>
        reopen ⟨embedder, embedded, learned, store, tuning⟩ >>= fun _ =>
          pure ⟨embedder, embedded, learned, store, tuning⟩ := by
  unfold build reopen
  simp only [bind_assoc]

/-- The worlds behind an index that was read and phrases that were added or refused since then, where nothing
else was done to the store and the index. -/
inductive Lives (c : Classifier W) (contents : W → Index) : W → Prop
  | opened {w v : W} : c.reopen.on w = (.ok (), v) → Lives c contents v
  | added {e : Semantic.Entry} {o : Outcome Unit} {w v : W} : Lives c contents w →
      (c.addEntry e).on w = (o, v) → Lives c contents v
  | passed {w v : W} : Lives c contents w → contents v = contents w →
      c.learned.read v = c.learned.read w → Lives c contents v

/-- The world behind the building of a classifier is the first of these. -/
theorem lives_build {watch : Watch W} {embedder : Embedder W} {kernel : Kernel W} {store : Store W}
    {learned : Part W Index} {tuning : Tuning} {c : Classifier W} (contents : W → Index) {w v : W}
    (h : (build watch embedder kernel store learned tuning).on w = (.ok c, v)) : c.Lives contents v := by
  rw [build_eq] at h
  obtain ⟨embedded, u, -, h⟩ := Act.exists_of_bind h
  obtain ⟨⟨⟩, x, hopen, h⟩ := Act.exists_of_bind h
  cases h
  exact .opened hopen

/-- What is the same of index and store at all times. -/
structure Agrees (c : Classifier W) (contents : W → Index) (column : Float → Float) (w : W) : Prop where
  same : Semantic.SameThrough column (c.learned.read w) (indexed c.embedder.dimensions (contents w))
  lengths : ∀ e ∈ c.learned.read w, e.embedding.length = c.embedder.dimensions

variable {c : Classifier W} {contents : W → Index} {column : Float → Float}

/-- What an addition does: nothing, or it adds the entry to both. -/
theorem addEntry_cases (hs : c.store.Keeps contents column c.learned) (hl : c.learned.Retains)
    {e : Semantic.Entry} {o : Outcome Unit} {w v : W} (h : (c.addEntry e).on w = (o, v)) :
    (∃ f, o = .error f) ∧ contents v = contents w ∧ c.learned.read v = c.learned.read w ∨
      o = .ok () ∧ e.embedding.length = c.embedder.dimensions ∧
        contents v = contents w ++ [e.through column] ∧ c.learned.read v = c.learned.read w ++ [e] := by
  unfold addEntry at h
  dsimp only at h
  split at h
  case isTrue hlen =>
    cases h
    exact .inl ⟨⟨_, rfl⟩, rfl, rfl⟩
  case isFalse hlen =>
    rw [Act.on_bind] at h
    rcases ha : (c.store.addEntry e).on w with ⟨_ | _, u⟩
    · rw [ha] at h
      cases h
      exact .inl ⟨⟨_, rfl⟩, hs.refused ha⟩
    · rw [ha] at h
      cases h
      obtain ⟨hcontents, hlearned⟩ := hs.added ha
      refine .inr ⟨rfl, Decidable.not_not.mp hlen, (hs.apart _ _).trans hcontents, ?_⟩
      rw [← hlearned]
      exact hl _ _

theorem on_reopen_ok (hs : c.store.Keeps contents column c.learned) (hl : c.learned.Retains) {w v : W}
    (h : c.reopen.on w = (.ok (), v)) :
    c.learned.read v = indexed c.embedder.dimensions (contents w) ∧ contents v = contents w := by
  obtain ⟨xs, u, hx, hv⟩ := Act.exists_of_bind h
  obtain ⟨rfl, hu⟩ := hs.entries hx
  cases hv
  exact ⟨hl _ _, (hs.apart _ _).trans hu⟩

theorem mem_indexed {d : Nat} {xs : Index} {e : Semantic.Entry} (h : e ∈ indexed d xs) :
    e.embedding.length = d :=
  of_decide_eq_true (List.mem_filter.mp h).2

/-- An entry that goes to both sides keeps them alike: the store has it as its column gives it back. -/
theorem Agrees.added (hcolumn : ∀ x, column (column x) = column x) {w v : W}
    (h : Agrees c contents column w) {e : Semantic.Entry} (he : e.embedding.length = c.embedder.dimensions)
    (hcontents : contents v = contents w ++ [e.through column])
    (hlearned : c.learned.read v = c.learned.read w ++ [e]) : Agrees c contents column v := by
  have hlast : indexed c.embedder.dimensions [e.through column] = [e.through column] :=
    List.filter_eq_self.mpr fun x hx => by
      rw [List.mem_singleton.mp hx]
      exact decide_eq_true he
  have hindexed : indexed c.embedder.dimensions (contents w ++ [e.through column]) =
      indexed c.embedder.dimensions (contents w) ++ [e.through column] :=
    (List.filter_append ..).trans (congrArg _ hlast)
  have htwice : (e.through column).through column = e.through column := by
    simp only [Semantic.Entry.through, hcolumn]
  constructor
  · rw [Semantic.SameThrough, hlearned, hcontents, hindexed, List.map_append, List.map_append, h.same,
      List.map_singleton, List.map_singleton, htwice]
  · rw [hlearned]
    intro x hx
    rcases List.mem_append.mp hx with hx | hx
    · exact h.lengths x hx
    · rw [List.mem_singleton.mp hx]
      exact he

theorem Agrees.of_eq {w v : W} (h : Agrees c contents column w) (hcontents : contents v = contents w)
    (hlearned : c.learned.read v = c.learned.read w) : Agrees c contents column v := by
  constructor
  · rw [hcontents, hlearned]
    exact h.same
  · rw [hlearned]
    exact h.lengths

theorem Lives.agrees (hs : c.store.Keeps contents column c.learned) (hl : c.learned.Retains) {w : W}
    (h : Lives c contents w) : Agrees c contents column w := by
  induction h with
  | opened h =>
    obtain ⟨hlearned, hcontents⟩ := on_reopen_ok hs hl h
    constructor
    · rw [hlearned, hcontents]
      exact rfl
    · rw [hlearned]
      exact fun e => mem_indexed
  | added _ h ih =>
    rcases addEntry_cases hs hl h with ⟨-, hcontents, hlearned⟩ | ⟨-, he, hcontents, hlearned⟩
    · exact ih.of_eq hcontents hlearned
    · exact ih.added hs.column_column he hcontents hlearned
  | passed _ hcontents hlearned ih => exact ih.of_eq hcontents hlearned

/-- Behind any additions to an index that was opened, it is the one that would be opened now, and all its
embeddings have the right length. An addition that fails has changed neither the store nor the index. -/
theorem learned_eq_reopened (hs : c.store.Keeps contents column c.learned) (hl : c.learned.Retains) {w : W}
    (h : Lives c contents w) :
    (∀ u, c.reopen.on w = (.ok (), u) →
      Semantic.SameThrough column (c.learned.read w) (c.learned.read u)) ∧
    (∀ e ∈ c.learned.read w, e.embedding.length = c.embedder.dimensions) ∧
    ∀ e f v, (c.addEntry e).on w = (.error f, v) →
      contents v = contents w ∧ c.learned.read v = c.learned.read w := by
  refine ⟨fun u hu => ?_, (h.agrees hs hl).lengths, fun e f v hv => ?_⟩
  · rw [(on_reopen_ok hs hl hu).1]
    exact (h.agrees hs hl).same
  · rcases addEntry_cases hs hl hv with ⟨-, hcontents, hlearned⟩ | ⟨hok, -⟩
    · exact ⟨hcontents, hlearned⟩
    · cases hok

/-- A classifier of two dimensions over the table of a database. -/
def flat : Classifier (Shelf × Index) where
  embedder := ⟨2, false, fun _ _ _ => pure []⟩
  embedded := []
  learned := ⟨Prod.snd, fun xs w => (w.1, xs)⟩
  store := Shelf.database ⟨Prod.fst, fun s w => (s, w.2)⟩
  tuning := {}

/-- An entry with the given confidence and coordinates. -/
def sample (confidence : Float) (bits : List UInt32) : Semantic.Entry :=
  ⟨⟨"mend it", "/fix", "parser", "", confidence⟩, bits.map (⟨·⟩)⟩

/-- The table behind three attempts: it had an entry of another dimension, it refused one that is too long and
one whose confidence is no number, and it knows no negative zero. -/
def flatEnd : Shelf × Index :=
  (⟨[sample 1 [1], sample 0.5 [1, 2], sample 0 [3, 4]], []⟩, [sample 0.5 [1, 2], sample (-0.0) [3, 4]])

theorem lives_flatEnd : flat.Lives (fun w => w.1.entries) flatEnd := by
  have hopen : flat.Lives (fun w => w.1.entries)
      (⟨[sample 1 [1], sample 0.5 [1, 2]], []⟩, [sample 0.5 [1, 2]]) :=
    .opened (w := (⟨[sample 1 [1], sample 0.5 [1, 2]], []⟩, [])) rfl
  have hlong := hopen.added (e := sample 1 [1, 2, 3]) rfl
  have hnone := hlong.added (e := sample (0 / 0) [1, 2]) rfl
  exact hnone.added (e := sample (-0.0) [3, 4]) rfl

theorem learned_eq_reopened_flatEnd :
    Semantic.SameThrough Shelf.column flatEnd.2 [sample 0.5 [1, 2], sample 0 [3, 4]] := by
  have hs : flat.store.Keeps (fun w => w.1.entries) Shelf.column flat.learned :=
    Shelf.keeps_database (fun _ _ => rfl) (fun _ _ => rfl) fun _ _ => rfl
  exact (learned_eq_reopened hs (fun _ _ => rfl) lives_flatEnd).1
    (flatEnd.1, [sample 0.5 [1, 2], sample 0 [3, 4]]) rfl

end Classifier

end Utterance
