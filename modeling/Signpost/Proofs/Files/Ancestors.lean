import Signpost.Proofs.Files.Growth

/-!
# What is above a path

The steps of a path are its components but the empty ones and `.`, which stay where they are. The
path above another one has its steps but the last. A path that ends in `.` behind others is the one
kind of path whose last component is not its last step.
-/

namespace Signpost.FilePath

variable {path parent t component : Text} {front : List Text}

/-! ## Steps -/

/-- Whether a component leads elsewhere. -/
def isStep (component : Text) : Bool := component ≠ [] && component ≠ ['.']

/-- The components of a path that lead elsewhere. -/
def steps (path : Text) : List Text := (Text.splitOn '/' path).filter isStep

theorem steps_append_cons : steps (t ++ '/' :: path) = steps t ++ steps path := by
  rw [steps, Text.splitOn_append_cons, List.filter_append]
  rfl

theorem steps_of_unslashed (h : '/' ∉ component) : steps component = [component].filter isStep := by
  rw [steps, Text.splitOn_eq_singleton h]

@[simp] theorem steps_nil : steps [] = [] := rfl

theorem steps_append_slash : steps (t ++ ['/']) = steps t := by
  rw [steps_append_cons, steps_nil, List.append_nil]

theorem isAbsolute_eq_head? : isAbsolute path = (path.head? == some '/') := by
  cases path with
  | nil => rfl
  | cons c rest =>
      simp only [isAbsolute, Text.startsWith, List.isPrefixOf, List.head?_cons, Bool.and_true]
      exact Bool.beq_comm

/-! ## Trimmed paths -/

theorem steps_trimBackwards : steps (trimBackwards t).reverse = steps t.reverse := by
  fun_induction trimBackwards t with
  | case1 c rest ih => rw [ih, List.reverse_cons (a := '/'), steps_append_slash]
  | case2 rest ih =>
      have hdot : ('.' :: '/' :: rest).reverse = rest.reverse ++ '/' :: ['.'] := by simp
      rw [ih, hdot, List.reverse_cons, steps_append_slash, steps_append_cons]
      exact (List.append_nil _).symm
  | case3 t => rfl

theorem getLast?_trimBackwards : (trimBackwards t).getLast? = t.getLast? := by
  fun_induction trimBackwards t with
  | case1 c rest ih => rw [ih, List.getLast?_cons_cons]
  | case2 rest ih => rw [ih, List.getLast?_cons_cons]
  | case3 t => rfl

theorem trimBackwards_suffix : trimBackwards t <:+ t := by
  fun_induction trimBackwards t with
  | case1 c rest ih => exact ih.trans (List.suffix_cons _ _)
  | case2 rest ih => exact ih.trans (List.suffix_cons _ _)
  | case3 t => exact List.suffix_rfl

/-- Nothing more can be dropped. -/
theorem trimBackwards_reduced : (∀ c rest, trimBackwards t ≠ '/' :: c :: rest) ∧
    ∀ rest, trimBackwards t ≠ '.' :: '/' :: rest := by
  fun_induction trimBackwards t with
  | case1 c rest ih => exact ih
  | case2 rest ih => exact ih
  | case3 t hslash hdot => exact ⟨fun c rest h => hslash c rest h, fun rest h => hdot rest h⟩

theorem trimBackwards_eq_self (hslash : ∀ c rest, t ≠ '/' :: c :: rest)
    (hdot : ∀ rest, t ≠ '.' :: '/' :: rest) : trimBackwards t = t := by
  fun_cases trimBackwards t with
  | case1 c rest => exact absurd rfl (hslash c rest)
  | case2 rest => exact absurd rfl (hdot rest)
  | case3 t => rfl

theorem steps_trim (path : Text) : steps (trim path) = steps path := by
  rw [trim, steps_trimBackwards, List.reverse_reverse]

theorem head?_trim (path : Text) : (trim path).head? = path.head? := by
  rw [trim, List.head?_reverse, getLast?_trimBackwards, List.getLast?_reverse]

theorem isAbsolute_trim (path : Text) : isAbsolute (trim path) = isAbsolute path := by
  rw [isAbsolute_eq_head?, isAbsolute_eq_head?, head?_trim]

theorem trim_start (path : Text) : trim path <+: path := by
  rw [trim, ← List.reverse_suffix, List.reverse_reverse]
  exact trimBackwards_suffix

theorem trim_append_slash (h : t ≠ []) : trim (t ++ ['/']) = trim t := by
  obtain ⟨front, c, rfl⟩ := List.eq_nil_or_concat' t |>.resolve_left h
  rw [trim, trim, List.reverse_append, List.reverse_append]
  rfl

theorem trim_ne_append_slash (h : t ≠ []) : trim path ≠ t ++ ['/'] := by
  intro heq
  obtain ⟨front, c, rfl⟩ := List.eq_nil_or_concat' t |>.resolve_left h
  have hreverse := congrArg List.reverse heq
  rw [trim, List.reverse_reverse] at hreverse
  exact trimBackwards_reduced.1 c front.reverse (by simpa using hreverse)

theorem trim_ne_append_dot : trim path ≠ t ++ ['/', '.'] := by
  intro heq
  have hreverse := congrArg List.reverse heq
  rw [trim, List.reverse_reverse] at hreverse
  exact trimBackwards_reduced.2 t.reverse (by simpa using hreverse)

/-! ## The path above -/

/-- A trimmed path is what stands before its last component, and that component. -/
theorem last?_eq_some (h : last? path = some component) : ∃ front : Text,
    trim path = front ++ component ∧ component ≠ [] ∧ '/' ∉ component ∧
      (front = [] ∨ ∃ base, front = base ++ ['/']) := by
  rw [last?] at h
  split at h
  next => cases h
  next hne =>
    obtain rfl := Option.some.inj h
    have hsplit := List.takeWhile_append_dropWhile (p := (· != '/')) (l := (trim path).reverse)
    refine ⟨((trim path).reverse.dropWhile (· != '/')).reverse, ?_, ?_, ?_, ?_⟩
    · rw [← List.reverse_append, hsplit, List.reverse_reverse]
    · simpa using hne
    · intro hslash
      simpa using List.mem_takeWhile_imp (List.mem_reverse.mp hslash)
    · cases hdrop : (trim path).reverse.dropWhile (· != '/') with
      | nil => exact .inl rfl
      | cons c rest =>
          have hc := List.head_dropWhile_not (· != '/') (l := (trim path).reverse) (by simp [hdrop])
          simp only [hdrop, List.head_cons, bne_eq_false_iff_eq] at hc
          exact .inr ⟨rest.reverse, by rw [hc, List.reverse_cons]⟩

theorem parent?_eq_some (h : parent? path = some parent) : ∃ front component : Text,
    trim path = front ++ component ∧ component ≠ [] ∧ '/' ∉ component ∧
      (front = [] ∨ ∃ base, front = base ++ ['/']) ∧ parent = trim front := by
  rw [parent?] at h
  split at h
  next => cases h
  next component hlast =>
    obtain ⟨front, htrim, hne, hslash, hfront⟩ := last?_eq_some hlast
    refine ⟨front, component, htrim, hne, hslash, hfront, ?_⟩
    rw [← Option.some.inj h, htrim, List.length_append, Nat.add_sub_cancel, List.take_left']
    rfl

theorem parent?_eq_none (h : parent? path = none) (hne : path ≠ []) : trim path = ['/'] := by
  have hempty : (trim path).reverse.takeWhile (· != '/') = [] := by
    rw [parent?] at h
    split at h
    next hlast =>
      rw [last?] at hlast
      split at hlast
      next hempty => exact List.reverse_eq_nil_iff.mp (List.isEmpty_iff.mp hempty)
      next => cases hlast
    next => cases h
  cases hreverse : (trim path).reverse with
  | nil =>
      rw [List.reverse_eq_nil_iff] at hreverse
      have hhead := head?_trim path
      rw [hreverse] at hhead
      exact absurd (List.head?_eq_none_iff.mp hhead.symm) hne
  | cons c rest =>
      -- nothing stands behind the last slash, and nothing before it or it would have been dropped
      obtain rfl : c = '/' := by simpa [hreverse] using hempty
      rw [List.reverse_eq_cons_iff] at hreverse
      by_cases hrest : rest.reverse = []
      · rw [hreverse, hrest, List.nil_append]
      · exact absurd hreverse (trim_ne_append_slash hrest)

theorem steps_append_unslashed (hslash : '/' ∉ component)
    (hfront : t = [] ∨ ∃ base, t = base ++ ['/']) :
    steps (t ++ component) = steps t ++ [component].filter isStep := by
  rcases hfront with rfl | ⟨base, rfl⟩
  · exact steps_of_unslashed hslash
  · rw [List.append_assoc, List.singleton_append, steps_append_cons, steps_append_slash,
      steps_of_unslashed hslash]

theorem steps_parent (h : parent? path = some parent) : steps parent = (steps path).dropLast := by
  obtain ⟨front, component, htrim, hne, hslash, hfront, rfl⟩ := parent?_eq_some h
  rw [steps_trim, ← steps_trim path, htrim, steps_append_unslashed hslash hfront]
  cases hstep : isStep component with
  | true =>
      rw [List.filter_singleton, hstep]
      exact List.dropLast_concat.symm
  | false =>
      -- a trimmed path ends in `.` only if that is the whole of it
      obtain rfl : component = ['.'] := by simpa [isStep, hne] using hstep
      rcases hfront with rfl | ⟨base, rfl⟩
      · rfl
      · exact absurd (htrim.trans (List.append_assoc _ _ _)) trim_ne_append_dot

theorem isAbsolute_parent (h : parent? path = some parent) :
    isAbsolute parent = isAbsolute path := by
  obtain ⟨front, component, htrim, hne, hslash, hfront, rfl⟩ := parent?_eq_some h
  rw [isAbsolute_trim, ← isAbsolute_trim path, htrim, isAbsolute_eq_head?,
    isAbsolute_eq_head?]
  rcases hfront with rfl | ⟨base, rfl⟩
  · cases component with
    | nil => exact absurd rfl hne
    | cons c rest =>
        have hc : c ≠ '/' := fun heq => hslash (heq ▸ List.mem_cons_self)
        simp [hc]
  · rw [List.head?_append_of_ne_nil (base ++ ['/']) (by simp)]

theorem length_parent (h : parent? path = some parent) : parent.length < path.length := by
  obtain ⟨front, component, htrim, hne, -, -, rfl⟩ := parent?_eq_some h
  have hpath := (trim_start path).length_le
  have hfront := (trim_start front).length_le
  have hcomponent := List.length_pos_iff.mpr hne
  rw [htrim, List.length_append] at hpath
  omega

theorem ancestorsWithin_congr {n m : Nat} (hn : path.length ≤ n) (hm : path.length ≤ m) :
    ancestorsWithin n path = ancestorsWithin m path := by
  induction n generalizing path m with
  | zero =>
      obtain rfl := List.length_eq_zero_iff.mp (Nat.le_zero.mp hn)
      cases m with
      | zero => rfl
      | succ m => rfl
  | succ n ih =>
      cases m with
      | zero =>
          obtain rfl := List.length_eq_zero_iff.mp (Nat.le_zero.mp hm)
          rfl
      | succ m =>
          rw [ancestorsWithin, ancestorsWithin]
          cases hparent : parent? path with
          | none => rfl
          | some parent =>
              have hshorter := length_parent hparent
              exact congrArg _ (ih (by omega) (by omega))

/-- The ancestors of a path are the path and the ancestors of the one above it. -/
theorem ancestors_eq : ancestors path = path :: match parent? path with
    | some parent => ancestors parent
    | none => [] := by
  rw [ancestors, ancestorsWithin_congr (Nat.le_refl _) (Nat.le_succ _), ancestorsWithin]
  cases hparent : parent? path with
  | none => rfl
  | some parent =>
      exact congrArg _ (ancestorsWithin_congr (length_parent hparent).le (Nat.le_refl _))

theorem steps_of_parent?_eq_none (h : parent? path = none) : steps path = [] := by
  by_cases hne : path = []
  · rw [hne, steps_nil]
  · rw [← steps_trim, parent?_eq_none h hne]
    rfl

/-! ## The last component -/

/-- The path ends in `.` behind other components. -/
def StaysAtEnd (path : Text) : Prop := ∃ base, Disk.withoutSlashes path = base ++ ['/', '.']

instance : Decidable (StaysAtEnd path) :=
  decidable_of_iff (['/', '.'] <:+ Disk.withoutSlashes path)
    ⟨fun ⟨base, h⟩ => ⟨base, h.symm⟩, fun ⟨base, h⟩ => ⟨base, h.symm⟩⟩

theorem steps_of_splitOn (h : Text.splitOn '/' (Disk.withoutSlashes path) = front ++ [component]) :
    steps path = front.filter isStep ++ [component].filter isStep := by
  obtain ⟨k, hk⟩ := Disk.splitOn_withoutSlashes path
  have hslashes : (List.replicate k []).filter isStep = [] :=
    List.filter_eq_nil_iff.mpr fun c hc => by simp [List.eq_of_mem_replicate hc, isStep]
  rw [steps, hk, h, List.filter_append, List.filter_append, hslashes, List.append_nil]

theorem StaysAtEnd.ne_nil (h : StaysAtEnd path) : path ≠ [] := by
  rintro rfl
  obtain ⟨base, hbase⟩ := h
  simp [Disk.withoutSlashes, Text.trimEndBy] at hbase

theorem StaysAtEnd.splitOn (h : StaysAtEnd path) : ∃ front,
    Text.splitOn '/' (Disk.withoutSlashes path) = front ++ [['.']] ∧
      front.filter isStep = steps path := by
  obtain ⟨base, hbase⟩ := h
  have hsplit : Text.splitOn '/' (Disk.withoutSlashes path) =
      Text.splitOn '/' base ++ [['.']] := by
    rw [hbase, Text.splitOn_append_cons]
    rfl
  refine ⟨_, hsplit, ?_⟩
  rw [steps_of_splitOn hsplit]
  exact (List.append_nil _).symm

theorem not_endsWith_withoutSlashes : Disk.withoutSlashes path ≠ t ++ ['/'] := by
  intro h
  have hself : (Disk.withoutSlashes path).rdropWhile (· == '/') = Disk.withoutSlashes path :=
    List.rdropWhile_idempotent _ _
  rw [h, List.rdropWhile_concat] at hself
  have hlength := congrArg List.length hself
  have hpre := List.rdropWhile_prefix (· == '/') t
  have hle := hpre.length_le
  simp only [beq_self_eq_true, if_true, List.length_append, List.length_singleton] at hlength
  omega

theorem trim_withoutSlashes (hne : Disk.withoutSlashes path ≠ []) :
    trim (Disk.withoutSlashes path) = trim path := by
  induction path using List.reverseRecOn with
  | nil => exact absurd rfl hne
  | append_singleton front c ih =>
      rw [Disk.withoutSlashes, Text.trimEndBy_eq_rdropWhile, List.rdropWhile_concat] at hne ⊢
      split at hne
      next hslash =>
        rw [if_pos hslash, eq_of_beq hslash]
        have hfront : front ≠ [] := by
          rintro rfl
          exact hne rfl
        rw [trim_append_slash hfront]
        exact ih hne
      next hslash => rw [if_neg hslash]

/-- Only slashes are dropped, unless the path ends in `.` behind other components. -/
theorem trim_eq_withoutSlashes (hne : Disk.withoutSlashes path ≠ []) (hstay : ¬StaysAtEnd path) :
    trim path = Disk.withoutSlashes path := by
  rw [← trim_withoutSlashes hne, trim, trimBackwards_eq_self, List.reverse_reverse]
  · intro c rest h
    rw [List.reverse_eq_cons_iff] at h
    exact not_endsWith_withoutSlashes h
  · intro rest h
    rw [List.reverse_eq_cons_iff, List.reverse_cons, List.append_assoc] at h
    exact hstay ⟨_, h⟩

theorem steps_parent_of_splitOn (h : parent? path = some parent) (hstay : ¬StaysAtEnd path)
    (hsplit : Text.splitOn '/' (Disk.withoutSlashes path) = front ++ [component]) :
    front.filter isStep = steps parent := by
  obtain ⟨before, last, htrim, hne, hslash, hbefore, rfl⟩ := parent?_eq_some h
  have hsome : Disk.withoutSlashes path ≠ [] := by
    intro hnil
    obtain ⟨c, hc⟩ := List.exists_mem_of_ne_nil _ hne
    have hmem : c ∈ path := (trim_start path).subset (htrim ▸ List.mem_append_right _ hc)
    rw [Disk.withoutSlashes, Text.trimEndBy_eq_rdropWhile, List.rdropWhile_eq_nil_iff] at hnil
    exact hslash (eq_of_beq (hnil c hmem) ▸ hc)
  rw [← trim_eq_withoutSlashes hsome hstay, htrim] at hsplit
  rw [steps_trim]
  rcases hbefore with rfl | ⟨base, rfl⟩
  · rw [List.nil_append, Text.splitOn_eq_singleton hslash] at hsplit
    obtain ⟨rfl, -⟩ := List.append_singleton_inj.mp (hsplit.symm.trans (List.nil_append _).symm)
    rfl
  · rw [List.append_assoc, List.singleton_append, Text.splitOn_append_cons,
      Text.splitOn_eq_singleton hslash] at hsplit
    obtain ⟨rfl, -⟩ := List.append_singleton_inj.mp hsplit
    rw [steps_append_slash]
    rfl

theorem not_staysAtEnd_parent (h : parent? path = some parent) : ¬StaysAtEnd parent := by
  obtain ⟨front, -, -, -, -, -, rfl⟩ := parent?_eq_some h
  rintro ⟨base, hbase⟩
  cases hend : Text.endsWith ['/'] (trim front) with
  | false =>
      rw [Disk.withoutSlashes_eq_self hend] at hbase
      exact trim_ne_append_dot hbase
  | true =>
      obtain ⟨lead, hlead⟩ := Text.endsWith_slash.mp hend
      by_cases hnil : lead = []
      · rw [hlead, hnil, show Disk.withoutSlashes ([] ++ ['/']) = [] from rfl] at hbase
        simp at hbase
      · exact trim_ne_append_slash hnil hlead

end Signpost.FilePath
