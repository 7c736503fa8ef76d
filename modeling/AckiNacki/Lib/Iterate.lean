import Mathlib.Data.List.TakeDrop
import Mathlib.Data.List.AList

namespace Iterate

variable {σ α β : Type}

/-- The values of up to `n` successive calls of `next`, stopping at the first `none`, with the
    state left after the last call. -/
def take_next (next : σ → Option α × σ) : Nat → σ → List α × σ
  | 0, s => ([], s)
  | n + 1, s =>
    match next s with
    | (none, s') => ([], s')
    | (some a, s') => (a :: (take_next next n s').1, (take_next next n s').2)

variable (next : σ → Option α × σ) (rep : σ → Option (List β)) (val : α → Option β)

/-- `next` walks the list that `rep` reads off a state: on a state standing for `b :: bs` it
    returns an item whose value is `b` and leaves a state standing for `bs`, and on a state
    standing for `[]` it returns `none` and keeps the state. -/
structure Simulates : Prop where
  step : ∀ {s b bs}, rep s = some (b :: bs) →
    ∃ a s', next s = (some a, s') ∧ val a = some b ∧ rep s' = some bs
  done : ∀ {s}, rep s = some [] → next s = (none, s)

variable {next rep val}

/-- Run lemma: `n` calls of a simulating `next` return the first `n` values and leave a state
    that stands for the rest. -/
theorem Simulates.take_next_spec (hsim : Simulates next rep val) :
    ∀ (n : Nat) (s : σ) (l : List β), rep s = some l →
      ((take_next next n s).1.map val = (l.take n).map some ∧
        rep (take_next next n s).2 = some (l.drop n)) := by
  intro n
  induction n with
  | zero =>
    intro s l hrep
    simp [Iterate.take_next, hrep]
  | succ n ih =>
    intro s l hrep
    cases l with
    | nil =>
      simp [Iterate.take_next, hsim.done hrep, hrep]
    | cons b bs =>
      obtain ⟨a, s', hnext, hval, hrep'⟩ := hsim.step hrep
      obtain ⟨hvalues, hrest⟩ := ih s' bs hrep'
      simp only [Iterate.take_next, hnext, List.map_cons, hval, hvalues, List.take_succ_cons,
        List.drop_succ_cons, hrest, and_self]

theorem mapM_cons_eq_some {f : α → Option β} {a : α} {l : List α} {r : List β} :
    (a :: l).mapM f = some r ↔ ∃ b bs, f a = some b ∧ l.mapM f = some bs ∧ r = b :: bs := by
  simp only [List.mapM_cons, Option.bind_eq_bind, Option.bind_eq_some_iff, Option.pure_def,
    Option.some.injEq]
  constructor
  · rintro ⟨b, hb, bs, hbs, rfl⟩
    exact ⟨b, bs, hb, hbs, rfl⟩
  · rintro ⟨b, bs, hb, hbs, rfl⟩
    exact ⟨b, hb, bs, hbs, rfl⟩

theorem map_eq_of_mapM_eq_some {f : α → Option β} :
    ∀ {l : List α} {r : List β}, l.mapM f = some r → l.map f = r.map some
  | [], r, h => by
    simp at h
    simp [← h]
  | a :: l, r, h => by
    obtain ⟨b, bs, hb, hbs, rfl⟩ := mapM_cons_eq_some.mp h
    simp [hb, map_eq_of_mapM_eq_some hbs]

theorem exists_mapM_eq_some {f : α → Option β} :
    ∀ {l : List α}, (∀ a ∈ l, (f a).isSome) → ∃ r, l.mapM f = some r
  | [], _ => ⟨[], rfl⟩
  | a :: l, h => by
    obtain ⟨b, hb⟩ := Option.isSome_iff_exists.mp (h a (by simp))
    obtain ⟨bs, hbs⟩ := exists_mapM_eq_some (l := l) (fun a' ha' => h a' (by simp [ha']))
    exact ⟨b :: bs, mapM_cons_eq_some.mpr ⟨b, bs, hb, hbs, rfl⟩⟩

theorem isSome_of_mapM_eq_some {f : α → Option β} :
    ∀ {l : List α} {r : List β}, l.mapM f = some r → ∀ a ∈ l, (f a).isSome
  | [], _, _, a, ha => by simp at ha
  | _ :: l, _, h, a, ha => by
    obtain ⟨c, cs, hc, hcs, rfl⟩ := mapM_cons_eq_some.mp h
    rcases List.mem_cons.mp ha with rfl | ha
    · simp [hc]
    · exact isSome_of_mapM_eq_some hcs a ha

theorem mapM_option_isSome {f : α → Option β} {l : List α} :
    (l.mapM f).isSome ↔ ∀ a ∈ l, (f a).isSome := by
  constructor
  · intro h
    obtain ⟨r, hr⟩ := Option.isSome_iff_exists.mp h
    exact isSome_of_mapM_eq_some hr
  · intro h
    obtain ⟨r, hr⟩ := exists_mapM_eq_some h
    simp [hr]

/-- A loop over a list: what every run of the body keeps, the whole loop keeps. -/
theorem foldl_invariant (P : σ → Prop) {f : σ → α → σ} :
    ∀ {l : List α} {s : σ}, (∀ a ∈ l, ∀ t, P t → P (f t a)) → P s → P (l.foldl f s)
  | [], _, _, hs => hs
  | a :: l, s, hstep, hs =>
    foldl_invariant P (l := l) (fun b hb => hstep b (List.mem_cons_of_mem a hb))
      (hstep a List.mem_cons_self s hs)

/-- A loop that inserts every entry of a list with distinct keys into an association list
    leaves each key of the list bound to its entry's value. -/
theorem lookup_foldl_insert {κ : Type} [DecidableEq κ] {δ γ : κ → Type} (f : ∀ a, δ a → γ a) :
    ∀ {l : List (Sigma δ)} (m : AList γ), l.NodupKeys → ∀ a,
      (l.foldl (fun m e => m.insert e.1 (f e.1 e.2)) m).lookup a =
        ((l.dlookup a).map (f a)).or (m.lookup a)
  | [], m, _, a => by simp
  | ⟨k, v⟩ :: l, m, hnodup, a => by
    obtain ⟨hk, hl⟩ := List.nodupKeys_cons.mp hnodup
    rw [List.foldl_cons, lookup_foldl_insert f _ hl a]
    by_cases ha : a = k
    · subst ha
      rw [List.dlookup_eq_none.mpr hk, List.dlookup_cons_eq, AList.lookup_insert]
      rfl
    · rw [List.dlookup_cons_ne l _ ha, AList.lookup_insert_ne ha]

/-- A loop that erases keys from an association list leaves exactly the other keys. -/
theorem lookup_foldl_erase {κ : Type} [DecidableEq κ] {δ : κ → Type} :
    ∀ (l : List κ) (m : AList δ) (a : κ),
      (l.foldl (fun m b => m.erase b) m).lookup a = if a ∈ l then none else m.lookup a
  | [], m, a => by simp
  | b :: l, m, a => by
    rw [List.foldl_cons, lookup_foldl_erase l _ a]
    by_cases hb : a = b
    · subst hb
      simp [AList.lookup_erase]
    · simp [AList.lookup_erase_ne hb, hb]

/-- Erasing the keys whose values fail a test filters every lookup by the test. -/
theorem lookup_foldl_erase_filter {κ : Type} [DecidableEq κ] {δ : κ → Type} {l : List κ}
    {m : AList δ} {a : κ} {p : δ a → Bool}
    (hl : a ∈ l ↔ ∃ v, m.lookup a = some v ∧ p v = false) :
    (l.foldl (fun m b => m.erase b) m).lookup a = (m.lookup a).filter p := by
  simp only [lookup_foldl_erase, hl]
  cases hlookup : m.lookup a with
  | none => simp
  | some v => cases hp : p v <;> simp [Option.filter_some, hp]

/-- A loop that inserts every value of a list under its own key, the keys all distinct, leaves
    each value's key bound to it. -/
theorem lookup_foldl_insert_key {κ ν : Type} [DecidableEq κ] (key : ν → κ) {l : List ν}
    (m : AList (fun _ : κ => ν)) (hnodup : (l.map key).Nodup) {v : ν} (hv : v ∈ l) :
    (l.foldl (fun m v => m.insert (key v) v) m).lookup (key v) = some v := by
  have hkeys : (l.map fun v => (⟨key v, v⟩ : (_ : κ) × ν)).NodupKeys := by
    simpa [List.NodupKeys, List.keys, Function.comp_def] using hnodup
  have hfold := lookup_foldl_insert (fun _ v => v) m hkeys (key v)
  rw [List.foldl_map] at hfold
  rw [hfold, List.mem_dlookup hkeys (List.mem_map_of_mem hv)]
  rfl

theorem dlookup_kreplace {κ ν : Type} [DecidableEq κ] (a : κ) (b : ν) (a' : κ) :
    ∀ l : List ((_ : κ) × ν),
      (l.kreplace a b).dlookup a' = if a' = a ∧ a ∈ l.keys then some b else l.dlookup a'
  | [] => by simp [List.kreplace]
  | ⟨k, v⟩ :: l => by
    by_cases hk : a = k
    · subst hk
      have hreplace : (⟨a, v⟩ :: l : List ((_ : κ) × ν)).kreplace a b = ⟨a, b⟩ :: l :=
        List.lookmap_cons_some _ l (by simp)
      rw [hreplace]
      by_cases ha : a' = a
      · subst ha
        simp [List.dlookup_cons_eq]
      · rw [List.dlookup_cons_ne l _ ha, List.dlookup_cons_ne l _ ha]
        simp [ha]
    · have hreplace : (⟨k, v⟩ :: l : List ((_ : κ) × ν)).kreplace a b = ⟨k, v⟩ :: l.kreplace a b :=
        List.lookmap_cons_none _ l (by simp [hk])
      rw [hreplace]
      by_cases ha : a' = k
      · subst ha
        simp [List.dlookup_cons_eq, Ne.symm hk]
      · rw [List.dlookup_cons_ne _ _ ha, List.dlookup_cons_ne _ _ ha, dlookup_kreplace a b a' l]
        simp [List.keys_cons, hk]

/-- An in-place update (`get_mut`) of a present key, as `AList.replace`. -/
theorem lookup_replace {κ ν : Type} [DecidableEq κ] (a : κ) (b : ν)
    (m : AList (fun _ : κ => ν)) (a' : κ) :
    (m.replace a b).lookup a' = if a' = a ∧ a ∈ m then some b else m.lookup a' := by
  simp only [AList.mem_keys]
  exact dlookup_kreplace a b a' m.entries

/-- What a lookup finds after an insert: the inserted value at its key, the old entry elsewhere. -/
theorem lookup_insert_eq_some {κ ν : Type} [DecidableEq κ] {m : AList (fun _ : κ => ν)}
    {a a' : κ} {b v : ν} :
    (m.insert a b).lookup a' = some v ↔ (a' = a ∧ b = v) ∨ (a' ≠ a ∧ m.lookup a' = some v) := by
  by_cases h : a' = a
  · subst h
    simp [AList.lookup_insert]
  · simp [AList.lookup_insert_ne h, h]

theorem mem_of_lookup_eq_some {κ : Type} [DecidableEq κ] {δ : κ → Type} {m : AList δ} {a : κ}
    {v : δ a} (h : m.lookup a = some v) : a ∈ m :=
  AList.lookup_isSome.mp (by rw [h]; rfl)

/-- A key of a loop that inserts values under their keys is bound to a value inserted under it,
    or to its value before the loop. -/
theorem lookup_foldl_insert_key_eq_some {κ ν : Type} [DecidableEq κ] (key : ν → κ) :
    ∀ {l : List ν} {m : AList (fun _ : κ => ν)} {k : κ} {v : ν},
      (l.foldl (fun m v => m.insert (key v) v) m).lookup k = some v →
        (v ∈ l ∧ key v = k) ∨ m.lookup k = some v
  | [], _, _, _, h => Or.inr h
  | a :: l, m, k, v, h => by
    rw [List.foldl_cons] at h
    rcases lookup_foldl_insert_key_eq_some key h with ⟨hmem, hkey⟩ | hlookup
    · exact Or.inl ⟨List.mem_cons_of_mem a hmem, hkey⟩
    · rcases lookup_insert_eq_some.mp hlookup with ⟨rfl, rfl⟩ | ⟨-, hlookup⟩
      · exact Or.inl ⟨List.mem_cons_self, rfl⟩
      · exact Or.inr hlookup

/-- A loop of inserts keeps every key bound. -/
theorem isSome_lookup_foldl_insert {κ ν : Type} [DecidableEq κ] (key : ν → κ) (l : List ν)
    {m : AList (fun _ : κ => ν)} {k : κ} (h : (m.lookup k).isSome) :
    ((l.foldl (fun m v => m.insert (key v) v) m).lookup k).isSome := by
  rw [AList.lookup_isSome] at h ⊢
  exact foldl_invariant (fun m : AList (fun _ : κ => ν) => k ∈ m)
    (fun v _ m hk => (AList.mem_insert m).mpr (Or.inr hk)) h

/-- The keys of the entries of a map that pass a test. -/
theorem mem_keys_filter {κ : Type} [DecidableEq κ] {δ : κ → Type} (m : AList δ)
    (p : Sigma δ → Bool) (a : κ) :
    a ∈ (m.entries.filter p).map (·.1) ↔ ∃ v, m.lookup a = some v ∧ p ⟨a, v⟩ := by
  simp only [List.mem_map, List.mem_filter]
  constructor
  · rintro ⟨⟨k, v⟩, ⟨hmem, hp⟩, rfl⟩
    exact ⟨v, AList.mem_lookup_iff.mpr hmem, hp⟩
  · rintro ⟨v, hlookup, hp⟩
    exact ⟨⟨a, v⟩, ⟨AList.mem_lookup_iff.mp hlookup, hp⟩, rfl⟩

/-- `retain`: the entries whose key passes a test, in their order. -/
def retain {κ : Type} {δ : κ → Type} (m : AList δ) (p : κ → Bool) : AList δ :=
  ⟨m.entries.filter (fun e => p e.1), List.NodupKeys.sublist List.filter_sublist m.nodupKeys⟩

@[simp]
theorem lookup_retain {κ : Type} [DecidableEq κ] {δ : κ → Type} (m : AList δ) (p : κ → Bool)
    (a : κ) : (retain m p).lookup a = if p a then m.lookup a else none := by
  apply Option.ext
  intro b
  change b ∈ (retain m p).lookup a ↔ b ∈ (if p a then m.lookup a else none)
  rw [AList.mem_lookup_iff]
  simp only [retain, List.mem_filter]
  split_ifs with hp
  · rw [AList.mem_lookup_iff]
    simp [hp]
  · simp [hp]

/-- A loop over a map's values that replaces each in place (`values_mut`): keys, and their
    order, stay. -/
def map_values {κ : Type} {δ γ : κ → Type} (f : ∀ a, δ a → γ a) (m : AList δ) : AList γ :=
  ⟨m.entries.map (.map id f), List.NodupKeys.map₂ f m.entries m.nodupKeys⟩

@[simp]
theorem lookup_map_values {κ : Type} [DecidableEq κ] {δ γ : κ → Type} (f : ∀ a, δ a → γ a)
    (m : AList δ) (a : κ) : (map_values f m).lookup a = (m.lookup a).map (f a) :=
  List.dlookup_map₂ a

@[simp]
theorem mem_map_values {κ : Type} {δ γ : κ → Type} (f : ∀ a, δ a → γ a) (m : AList δ) (a : κ) :
    a ∈ map_values f m ↔ a ∈ m := by
  rw [AList.mem_keys, AList.mem_keys]
  simp [map_values, AList.keys, List.map₂_keys]

section Loop

variable {ε : Type}

theorem except_bind_eq_ok {x : Except ε α} {f : α → Except ε β} {b : β} :
    x >>= f = .ok b ↔ ∃ a, x = .ok a ∧ f a = .ok b := by
  cases x with
  | error e => simp [bind, Except.bind]
  | ok a => simp [bind, Except.bind]

theorem except_map_eq_ok {f : α → β} {x : Except ε α} {b : β} :
    x.map f = .ok b ↔ ∃ a, x = .ok a ∧ f a = b := by
  cases x <;> simp [Except.map]

/-- A loop that reads every key of a list, where a read value names the key it was read
    under, returns values whose names are the keys, each read under its own name. -/
theorem mapM_except_map_eq {f : α → Except ε β} {g : β → α} (hg : ∀ a b, f a = .ok b → g b = a) :
    ∀ {l : List α} {r : List β}, l.mapM f = .ok r → r.map g = l ∧ ∀ b ∈ r, f (g b) = .ok b
  | [], r, h => by
    simp only [List.mapM_nil, pure, Except.pure, Except.ok.injEq] at h
    subst h
    simp
  | a :: l, r, h => by
    obtain ⟨b, hb, h⟩ := except_bind_eq_ok.mp ((List.mapM_cons).symm.trans h)
    obtain ⟨bs, hbs, h⟩ := except_bind_eq_ok.mp h
    simp only [pure, Except.pure, Except.ok.injEq] at h
    subst h
    obtain ⟨hmap, hread⟩ := mapM_except_map_eq hg hbs
    have hname : g b = a := hg a b hb
    refine ⟨by rw [List.map_cons, hname, hmap], ?_⟩
    simp only [List.forall_mem_cons]
    exact ⟨hname ▸ hb, hread⟩

theorem foldlM_except_cons {f : σ → α → Except ε σ} {a : α} {l : List α} {s s' : σ} :
    (a :: l).foldlM f s = .ok s' ↔ ∃ t, f s a = .ok t ∧ l.foldlM f t = .ok s' := by
  rw [List.foldlM_cons]
  cases h : f s a with
  | error e => simp [bind, Except.bind]
  | ok t => simp [bind, Except.bind]

theorem foldlM_except_invariant (P : σ → Prop) {f : σ → α → Except ε σ} :
    ∀ {l : List α} {s s' : σ}, (∀ a ∈ l, ∀ t t', f t a = .ok t' → P t → P t') →
      l.foldlM f s = .ok s' → P s → P s'
  | [], s, s', _, hrun, hs => by
    simp only [List.foldlM_nil, pure, Except.pure, Except.ok.injEq] at hrun
    exact hrun ▸ hs
  | a :: l, s, s', hstep, hrun, hs => by
    obtain ⟨t, hfirst, hrest⟩ := foldlM_except_cons.mp hrun
    exact foldlM_except_invariant P (fun b hb => hstep b (List.mem_cons_of_mem a hb)) hrest
      (hstep a List.mem_cons_self s t hfirst hs)

/-- A filter whose test cannot fail keeps what the pure filter keeps. -/
theorem filterMapM_option_eq_some {β : Type} {f : α → Option (Option β)} {g : α → Option β} :
    ∀ {l : List α}, (∀ a ∈ l, f a = some (g a)) → l.filterMapM f = some (l.filterMap g)
  | [], _ => rfl
  | a :: l, h => by
    rw [List.filterMapM_cons, h a List.mem_cons_self,
      filterMapM_option_eq_some fun b hb => h b (List.mem_cons_of_mem a hb)]
    cases hg : g a <;> simp [hg]

theorem foldlM_option_nil {f : σ → α → Option σ} {s s' : σ} :
    ([] : List α).foldlM f s = some s' ↔ s = s' := by
  simp only [List.foldlM_nil, Option.pure_def, Option.some.injEq]

theorem foldlM_option_cons {f : σ → α → Option σ} {a : α} {l : List α} {s s' : σ} :
    (a :: l).foldlM f s = some s' ↔ ∃ t, f s a = some t ∧ l.foldlM f t = some s' := by
  rw [List.foldlM_cons]
  cases h : f s a with
  | none => simp
  | some t => simp

/-- A loop whose body can panic: what every run of the body keeps, a run of the whole loop
    that does not panic keeps. -/
theorem foldlM_option_invariant (P : σ → Prop) {f : σ → α → Option σ} :
    ∀ {l : List α} {s s' : σ}, (∀ a ∈ l, ∀ t t', f t a = some t' → P t → P t') →
      l.foldlM f s = some s' → P s → P s'
  | [], s, s', _, hrun, hs => foldlM_option_nil.mp hrun ▸ hs
  | a :: l, s, s', hstep, hrun, hs => by
    obtain ⟨t, hfirst, hrest⟩ := foldlM_option_cons.mp hrun
    exact foldlM_option_invariant P (fun b hb => hstep b (List.mem_cons_of_mem a hb)) hrest
      (hstep a List.mem_cons_self s t hfirst hs)

/-- Two failing computations that agree once the first one's result is read through `f`: the
    first succeeds with a result that reads as `b` exactly when the second returns `b`, and they
    fail with the same errors. -/
theorem except_map_eq_map_some {γ : Type} {x : Except ε α} {y : Except ε γ} {f : α → Option γ}
    (h : x.map f = y.map some) :
    (∀ c, (∃ a, x = .ok a ∧ f a = some c) ↔ y = .ok c) ∧ ∀ e, x = .error e ↔ y = .error e := by
  cases x with
  | error e =>
    cases y with
    | error e' =>
      obtain rfl : e = e' := by injection h
      simp
    | ok c => exact absurd h (by simp [Except.map])
  | ok a =>
    cases y with
    | error e => exact absurd h (by simp [Except.map])
    | ok c =>
      have hfa : f a = some c := by injection h
      simp [hfa]

end Loop

section Prefix

variable {ε : Type} [DecidableEq β]

/-- Strip `cs` off the front of `bs`: what is left, or the error for the first value `c` of `cs`
    that differs from the value `b` in its place (`mismatch c b`) or has none (`missing c`). -/
def strip_expected (mismatch : β → β → ε) (missing : β → ε) : List β → List β → Except ε (List β)
  | bs, [] => .ok bs
  | [], c :: _ => .error (missing c)
  | b :: bs, c :: cs =>
    if b ≠ c then .error (mismatch c b) else strip_expected mismatch missing bs cs

variable {mismatch : β → β → ε} {missing : β → ε}

theorem strip_expected_eq_ok_iff :
    ∀ {bs cs rest : List β}, strip_expected mismatch missing bs cs = .ok rest ↔ bs = cs ++ rest
  | bs, [], rest => by simp [strip_expected]
  | [], c :: cs, rest => by simp [strip_expected]
  | b :: bs, c :: cs, rest => by
    by_cases hbc : b = c
    · subst hbc
      simp [strip_expected, strip_expected_eq_ok_iff]
    · simp [strip_expected, hbc]

/-- The stripping fails only at a missing value or at a value that differs. -/
theorem strip_expected_eq_error : ∀ {bs cs : List β} {e : ε},
    strip_expected mismatch missing bs cs = .error e →
      (∃ c, e = missing c) ∨ ∃ c b, c ≠ b ∧ e = mismatch c b
  | bs, [], e, h => by simp [strip_expected] at h
  | [], c :: _, e, h => by
    have he : missing c = e := by injection h
    exact .inl ⟨c, he.symm⟩
  | b :: bs, c :: cs, e, h => by
    by_cases hbc : b = c
    · rw [strip_expected, if_neg (not_not.mpr hbc)] at h
      exact strip_expected_eq_error h
    · rw [strip_expected, if_pos hbc] at h
      have he : mismatch c b = e := by injection h
      exact .inr ⟨c, b, Ne.symm hbc, he.symm⟩

variable {rep : σ → Option (List β)}

/-- Loop rule: when each turn of `f` takes the next value of the list a state stands for and
    fails unless it is the expected one, a run of `f` strips the expected values off that list. -/
theorem foldlM_strip_expected {f : σ → β → Except ε σ}
    (hcons : ∀ {s b bs} c, rep s = some (b :: bs) →
      ∃ s', rep s' = some bs ∧ f s c = if b ≠ c then .error (mismatch c b) else .ok s')
    (hnil : ∀ {s} c, rep s = some [] → f s c = .error (missing c)) :
    ∀ (cs : List β) {s : σ} {bs : List β}, rep s = some bs →
      (cs.foldlM f s).map rep = (strip_expected mismatch missing bs cs).map some
  | [], s, bs, hrep => by
    simp only [List.foldlM_nil, strip_expected]
    exact congrArg Except.ok hrep
  | c :: cs, s, [], hrep => by
    rw [List.foldlM_cons, hnil c hrep]
    rfl
  | c :: cs, s, b :: bs, hrep => by
    obtain ⟨s', hrep', hf⟩ := hcons c hrep
    rw [List.foldlM_cons, hf, strip_expected]
    split_ifs
    · rfl
    · exact foldlM_strip_expected hcons hnil cs hrep'

end Prefix

end Iterate
