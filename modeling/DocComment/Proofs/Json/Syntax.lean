import DocComment.Json.Read
import DocComment.Proofs.Json.Token

/-!
# Tokens and values

A value has one row of tokens (`tokens`), and the reader takes a value off the tokens of a text
exactly when the row of the value is what the tokens begin with and there is room for its containers
(`read?_eq_some_iff`).  So the texts that are read as the value are those that spell its row
(`read?_eq_some_nil_iff`).

The reader is a machine that keeps the open containers, so both directions are about a value in the
middle of a text: in any state that waits for a value, the row of a value takes the machine to where
the value is put into its container (`Nests.reads`), and a run from such a state that comes to
an end has taken the row of some value first (`exists_of_run?_value`).  The second is an induction
on the number of tokens, since what follows an element is read by the same machine as the element.
-/

namespace DocComment.Json

/-! ## Rows of tokens -/

mutual

/-- The tokens that a value is written with. -/
def tokens : Json → List Token
  | null => [.null]
  | bool b => [.bool b]
  | number literal => [.number literal]
  | string t => [.string t]
  | array [] => [.openArray, .closeArray]
  | array (v :: vs) => .openArray :: tokens v ++ elementTokens vs ++ [.closeArray]
  | object [] => [.openObject, .closeObject]
  | object (m :: ms) => .openObject :: memberTokens m ++ membersTokens ms ++ [.closeObject]

/-- The elements after the first. -/
def elementTokens : List Json → List Token
  | [] => []
  | v :: vs => .comma :: tokens v ++ elementTokens vs

/-- A name and its value. -/
def memberTokens : Text × Json → List Token
  | (name, v) => .string name :: .colon :: tokens v

/-- The members after the first. -/
def membersTokens : List (Text × Json) → List Token
  | [] => []
  | m :: ms => .comma :: memberTokens m ++ membersTokens ms

end

/-- A value that opens at most so many containers inside one another. -/
inductive Nests : Nat → Json → Prop
  | null {n : Nat} : Nests n null
  | bool {n : Nat} (b : Bool) : Nests n (bool b)
  | number {n : Nat} (literal : Text) : Nests n (number literal)
  | string {n : Nat} (t : Text) : Nests n (string t)
  | array {n : Nat} {vs : List Json} (h : ∀ v ∈ vs, Nests n v) : Nests (n + 1) (array vs)
  | object {n : Nat} {ms : List (Text × Json)} (h : ∀ m ∈ ms, Nests n m.2) :
      Nests (n + 1) (object ms)

/-- No row of tokens begins with the end of an array. -/
theorem head?_tokens (v : Json) (rest : List Token) :
    (tokens v ++ rest).head? ≠ some .closeArray := by
  cases v with
  | array vs => cases vs <;> simp [tokens]
  | object ms => cases ms <;> simp [tokens]
  | _ => simp [tokens]

/-- No member begins with the end of an object. -/
theorem head?_memberTokens (m : Text × Json) (rest : List Token) :
    (memberTokens m ++ rest).head? ≠ some .closeObject := by
  obtain ⟨name, v⟩ := m
  simp [memberTokens]

/-! ## Steps of the reader -/

/-- How the reader goes on with some tokens. -/
def Progress.resume : Progress → List Token → Option (Json × List Token)
  | .done v, ts => some (v, ts)
  | .more expected waiting, ts => run? expected waiting ts

variable {expected : Expected} {waiting : List Frame} {token : Token} {progress : Progress}
  {n : Nat} {result : Json × List Token}

theorem run?_cons (h : step? expected waiting token = some progress) (ts : List Token) :
    run? expected waiting (token :: ts) = progress.resume ts := by
  rw [run?, h]
  cases progress <;> rfl

/-- An element that comes first is read like any other. -/
theorem run?_firstElement {ts : List Token} (h : ts.head? ≠ some .closeArray)
    (waiting : List Frame) :
    run? .firstElement waiting ts = run? .value (.element [] :: waiting) ts := by
  cases ts with
  | nil => rfl
  | cons token rest =>
    cases token with
    | closeArray => exact absurd rfl h
    | _ => rfl

/-- A member that comes first is read like any other. -/
theorem run?_firstName {ts : List Token} (h : ts.head? ≠ some .closeObject)
    (waiting : List Frame) : run? .firstName waiting ts = run? (.name []) waiting ts := by
  cases ts with
  | nil => rfl
  | cons token rest =>
    cases token with
    | closeObject => exact absurd rfl h
    | _ => rfl

/-- A container is opened where one more may be. -/
theorem step?_open (h : waiting.length < maxDepth) :
    step? .value waiting .openArray = some (.more .firstElement waiting) ∧
      step? .value waiting .openObject = some (.more .firstName waiting) :=
  ⟨if_pos h, if_pos h⟩

/-! ## What a row of tokens is read as -/

/-- Wherever the reader waits for a value, and so many more containers may be opened, it takes the
tokens of the value for what they are and goes on behind them. -/
def Reads (n : Nat) (v : Json) : Prop :=
  ∀ (waiting : List Frame) (rest : List Token), waiting.length + n ≤ maxDepth →
    run? .value waiting (tokens v ++ rest) = (place v waiting).resume rest

/-- The elements after the first, up to the end of the array. -/
theorem run?_elementTokens (h : waiting.length + (n + 1) ≤ maxDepth) {vs : List Json}
    (hvs : ∀ v ∈ vs, Reads n v) (before : List Json) (rest : List Token) :
    run? (.nextElement before) waiting (elementTokens vs ++ .closeArray :: rest) =
      (place (array (before.reverse ++ vs)) waiting).resume rest := by
  induction vs generalizing before with
  | nil =>
    rw [elementTokens, List.nil_append, List.append_nil]
    exact run?_cons rfl rest
  | cons v vs ih =>
    have hv := hvs v List.mem_cons_self (.element before :: waiting)
      (elementTokens vs ++ .closeArray :: rest) (by rw [List.length_cons]; omega)
    have ih := ih (fun w hw ↦ hvs w (List.mem_cons_of_mem v hw)) (v :: before)
    rw [elementTokens, List.cons_append, List.cons_append, List.append_assoc, run?_cons rfl,
      Progress.resume, hv, place, Progress.resume, ih, List.reverse_cons, List.append_assoc]
    rfl

/-- A member is read up to where the next one or the end of the object may come. -/
theorem run?_memberTokens (h : waiting.length + (n + 1) ≤ maxDepth) {m : Text × Json}
    (hm : Reads n m.2) (before : List (Text × Json)) (rest : List Token) :
    run? (.name before) waiting (memberTokens m ++ rest) =
      run? (.nextMember (m :: before)) waiting rest := by
  obtain ⟨name, v⟩ := m
  have hv := hm (.member before name :: waiting) rest (by rw [List.length_cons]; omega)
  rw [memberTokens, List.cons_append, List.cons_append, run?_cons rfl, Progress.resume,
    run?_cons rfl, Progress.resume, hv, place, Progress.resume]

/-- The members after the first, up to the end of the object. -/
theorem run?_membersTokens (h : waiting.length + (n + 1) ≤ maxDepth) {ms : List (Text × Json)}
    (hms : ∀ m ∈ ms, Reads n m.2) (before : List (Text × Json)) (rest : List Token) :
    run? (.nextMember before) waiting (membersTokens ms ++ .closeObject :: rest) =
      (place (object (before.reverse ++ ms)) waiting).resume rest := by
  induction ms generalizing before with
  | nil =>
    rw [membersTokens, List.nil_append, List.append_nil]
    exact run?_cons rfl rest
  | cons m ms ih =>
    have ih := ih (fun w hw ↦ hms w (List.mem_cons_of_mem m hw)) (m :: before)
    rw [membersTokens, List.cons_append, List.cons_append, List.append_assoc, run?_cons rfl,
      Progress.resume, run?_memberTokens h (hms m List.mem_cons_self), ih, List.reverse_cons,
      List.append_assoc]
    rfl

theorem reads_array {vs : List Json} (hvs : ∀ v ∈ vs, Reads n v) : Reads (n + 1) (array vs) := by
  intro waiting rest h
  have hlt : waiting.length < maxDepth := by omega
  have hopen := (step?_open hlt).1
  cases vs with
  | nil =>
    rw [tokens, List.cons_append, run?_cons hopen, Progress.resume]
    exact run?_cons rfl rest
  | cons v vs =>
    have hv := hvs v List.mem_cons_self (.element [] :: waiting)
      (elementTokens vs ++ .closeArray :: rest) (by rw [List.length_cons]; omega)
    simp only [tokens, List.cons_append, List.append_assoc, List.nil_append]
    rw [run?_cons hopen, Progress.resume, run?_firstElement (head?_tokens v _), hv, place,
      Progress.resume, run?_elementTokens h fun w hw ↦ hvs w (List.mem_cons_of_mem v hw)]
    rfl

theorem reads_object {ms : List (Text × Json)} (hms : ∀ m ∈ ms, Reads n m.2) :
    Reads (n + 1) (object ms) := by
  intro waiting rest h
  have hlt : waiting.length < maxDepth := by omega
  have hopen := (step?_open hlt).2
  cases ms with
  | nil =>
    rw [tokens, List.cons_append, run?_cons hopen, Progress.resume]
    exact run?_cons rfl rest
  | cons m ms =>
    simp only [tokens, List.cons_append, List.append_assoc, List.nil_append]
    rw [run?_cons hopen, Progress.resume, run?_firstName (head?_memberTokens m _),
      run?_memberTokens h (hms m List.mem_cons_self),
      run?_membersTokens h fun w hw ↦ hms w (List.mem_cons_of_mem m hw)]
    rfl

/-- A value is read off its tokens wherever there is room for its containers. -/
theorem Nests.reads {v : Json} (h : Nests n v) : Reads n v := by
  induction h with
  | null | bool | number | string => exact fun _ rest _ ↦ run?_cons rfl rest
  | array _ ih => exact reads_array ih
  | object _ ih => exact reads_object ih

/-! ## What a run has read -/

/-- A run that comes to an end has taken a step first. -/
theorem exists_step_of_run? {ts : List Token} (h : run? expected waiting ts = some result) :
    ∃ token rest progress, ts = token :: rest ∧
      step? expected waiting token = some progress ∧ progress.resume rest = some result := by
  cases ts with
  | nil => cases h
  | cons token rest =>
    cases hstep : step? expected waiting token with
    | none => rw [run?, hstep] at h; cases h
    | some progress => exact ⟨token, rest, progress, rfl, hstep, (run?_cons hstep rest) ▸ h⟩

/-- A token that begins a value is all of it, or it opens a container. -/
theorem begin?_cases (h : begin? waiting token = some progress) :
    (∃ v, (∀ n, Nests n v) ∧ tokens v = [token] ∧ progress = place v waiting) ∨
      waiting.length < maxDepth ∧
        (token = .openArray ∧ progress = .more .firstElement waiting ∨
          token = .openObject ∧ progress = .more .firstName waiting) := by
  cases token with
  | null => exact .inl ⟨null, fun _ ↦ .null, by rw [tokens], (Option.some.inj h).symm⟩
  | bool b => exact .inl ⟨bool b, fun _ ↦ .bool b, by rw [tokens], (Option.some.inj h).symm⟩
  | number t => exact .inl ⟨number t, fun _ ↦ .number t, by rw [tokens], (Option.some.inj h).symm⟩
  | string t => exact .inl ⟨string t, fun _ ↦ .string t, by rw [tokens], (Option.some.inj h).symm⟩
  | openArray =>
    obtain ⟨hroom, hprogress⟩ := Option.ite_none_right_eq_some.1 h
    exact .inr ⟨hroom, .inl ⟨rfl, (Option.some.inj hprogress).symm⟩⟩
  | openObject =>
    obtain ⟨hroom, hprogress⟩ := Option.ite_none_right_eq_some.1 h
    exact .inr ⟨hroom, .inr ⟨rfl, (Option.some.inj hprogress).symm⟩⟩
  | _ => cases h

/-- After an element an array ends or goes on. -/
theorem step?_nextElement_cases {before : List Json}
    (h : step? (.nextElement before) waiting token = some progress) :
    token = .closeArray ∧ progress = place (array before.reverse) waiting ∨
      token = .comma ∧ progress = .more .value (.element before :: waiting) := by
  cases token with
  | closeArray => exact .inl ⟨rfl, (Option.some.inj h).symm⟩
  | comma => exact .inr ⟨rfl, (Option.some.inj h).symm⟩
  | _ => cases h

/-- After a member an object ends or goes on. -/
theorem step?_nextMember_cases {before : List (Text × Json)}
    (h : step? (.nextMember before) waiting token = some progress) :
    token = .closeObject ∧ progress = place (object before.reverse) waiting ∨
      token = .comma ∧ progress = .more (.name before) waiting := by
  cases token with
  | closeObject => exact .inl ⟨rfl, (Option.some.inj h).symm⟩
  | comma => exact .inr ⟨rfl, (Option.some.inj h).symm⟩
  | _ => cases h

/-- A member is a name, a colon, and then a value. -/
theorem exists_name_of_run? {before : List (Text × Json)} {ts : List Token}
    (h : run? (.name before) waiting ts = some result) :
    ∃ name rest, ts = .string name :: .colon :: rest ∧
      run? .value (.member before name :: waiting) rest = some result := by
  obtain ⟨token, ts, progress, rfl, hstep, hresume⟩ := exists_step_of_run? h
  cases token with
  | string name =>
    cases hstep
    obtain ⟨token, rest, progress, rfl, hstep, hresume⟩ := exists_step_of_run? hresume
    cases token with
    | colon =>
      cases hstep
      exact ⟨name, rest, rfl, hresume⟩
    | _ => cases hstep
  | _ => cases hstep

mutual

/-- A run that waits for a value and comes to an end has taken the tokens of one first. -/
theorem exists_of_run?_value {n : Nat} {waiting : List Frame} {ts : List Token}
    (hroom : waiting.length + n = maxDepth)
    (hrun : run? .value waiting ts = some result) :
    ∃ v rest, Nests n v ∧ ts = tokens v ++ rest ∧
      (place v waiting).resume rest = some result := by
  obtain ⟨token, more, progress, hts, hstep, hresume⟩ := exists_step_of_run? hrun
  have hmore : more.length < ts.length := by rw [hts]; exact Nat.lt_succ_self _
  rcases begin?_cases hstep with ⟨v, hv, htoken, rfl⟩ | ⟨hlt, ⟨rfl, rfl⟩ | ⟨rfl, rfl⟩⟩
  · exact ⟨v, more, hv n, by rw [hts, htoken]; rfl, hresume⟩
  · obtain ⟨k, rfl⟩ : ∃ k, n = k + 1 := ⟨n - 1, by omega⟩
    obtain ⟨vs, rest, hvs, hmore, hresume⟩ := exists_of_run?_firstElement hroom hresume
    exact ⟨array vs, rest, .array hvs, by rw [hts, hmore], hresume⟩
  · obtain ⟨k, rfl⟩ : ∃ k, n = k + 1 := ⟨n - 1, by omega⟩
    obtain ⟨ms, rest, hms, hmore, hresume⟩ := exists_of_run?_firstName hroom hresume
    exact ⟨object ms, rest, .object hms, by rw [hts, hmore], hresume⟩
termination_by 2 * ts.length

/-- A run that waits for the first element of an array takes all of them. -/
theorem exists_of_run?_firstElement {n : Nat} {waiting : List Frame} {ts : List Token}
    (hroom : waiting.length + (n + 1) = maxDepth)
    (hrun : run? .firstElement waiting ts = some result) :
    ∃ vs rest, (∀ v ∈ vs, Nests n v) ∧ .openArray :: ts = tokens (array vs) ++ rest ∧
      (place (array vs) waiting).resume rest = some result := by
  by_cases hclose : ts.head? = some .closeArray
  · obtain ⟨rest, rfl⟩ := List.head?_eq_some_iff.1 hclose
    rw [run?_cons rfl] at hrun
    exact ⟨[], rest, nofun, by rw [tokens]; rfl, hrun⟩
  · rw [run?_firstElement hclose] at hrun
    obtain ⟨v, more, hv, hts, hresume⟩ :=
      exists_of_run?_value (n := n) (by rw [List.length_cons]; omega) hrun
    have hmore : more.length ≤ ts.length := by rw [hts, List.length_append]; omega
    obtain ⟨vs, rest, hvs, hrest, hresume⟩ := exists_of_run?_elements hroom hresume
    refine ⟨v :: vs, rest, List.forall_mem_cons.2 ⟨hv, hvs⟩, ?_, hresume⟩
    simp only [tokens, hts, hrest, List.cons_append, List.append_assoc, List.nil_append]
termination_by 2 * ts.length + 1

/-- A run behind an element takes the elements after it and the end of the array. -/
theorem exists_of_run?_elements {n : Nat} {waiting : List Frame} {ts : List Token}
    {before : List Json} (hroom : waiting.length + (n + 1) = maxDepth)
    (hrun : run? (.nextElement before) waiting ts = some result) :
    ∃ vs rest, (∀ v ∈ vs, Nests n v) ∧ ts = elementTokens vs ++ .closeArray :: rest ∧
      (place (array (before.reverse ++ vs)) waiting).resume rest = some result := by
  obtain ⟨token, more, progress, hts, hstep, hresume⟩ := exists_step_of_run? hrun
  have hmore : more.length < ts.length := by rw [hts]; exact Nat.lt_succ_self _
  rcases step?_nextElement_cases hstep with ⟨rfl, rfl⟩ | ⟨rfl, rfl⟩
  · exact ⟨[], more, nofun, by rw [hts, elementTokens]; rfl, by rwa [List.append_nil]⟩
  · obtain ⟨v, others, hv, hmore', hresume⟩ :=
      exists_of_run?_value (n := n) (by rw [List.length_cons]; omega) hresume
    have hothers : others.length ≤ more.length := by rw [hmore', List.length_append]; omega
    obtain ⟨vs, rest, hvs, hrest, hresume⟩ := exists_of_run?_elements hroom hresume
    refine ⟨v :: vs, rest, List.forall_mem_cons.2 ⟨hv, hvs⟩, ?_, ?_⟩
    · simp only [elementTokens, hts, hmore', hrest, List.cons_append, List.append_assoc]
    · rwa [List.reverse_cons, List.append_assoc] at hresume
termination_by 2 * ts.length

/-- A run that waits for the first member of an object takes all of them. -/
theorem exists_of_run?_firstName {n : Nat} {waiting : List Frame} {ts : List Token}
    (hroom : waiting.length + (n + 1) = maxDepth)
    (hrun : run? .firstName waiting ts = some result) :
    ∃ ms rest, (∀ m ∈ ms, Nests n m.2) ∧ .openObject :: ts = tokens (object ms) ++ rest ∧
      (place (object ms) waiting).resume rest = some result := by
  by_cases hclose : ts.head? = some .closeObject
  · obtain ⟨rest, rfl⟩ := List.head?_eq_some_iff.1 hclose
    rw [run?_cons rfl] at hrun
    exact ⟨[], rest, nofun, by rw [tokens]; rfl, hrun⟩
  · rw [run?_firstName hclose] at hrun
    obtain ⟨m, more, hm, hts, hresume⟩ := exists_of_run?_name hroom hrun
    have hmore : more.length ≤ ts.length := by rw [hts, List.length_append]; omega
    obtain ⟨ms, rest, hms, hrest, hresume⟩ := exists_of_run?_members hroom hresume
    refine ⟨m :: ms, rest, List.forall_mem_cons.2 ⟨hm, hms⟩, ?_, hresume⟩
    simp only [tokens, hts, hrest, List.cons_append, List.append_assoc, List.nil_append]
termination_by 2 * ts.length + 1

/-- A run that waits for a member takes one. -/
theorem exists_of_run?_name {n : Nat} {waiting : List Frame} {ts : List Token}
    {before : List (Text × Json)} (hroom : waiting.length + (n + 1) = maxDepth)
    (hrun : run? (.name before) waiting ts = some result) :
    ∃ m rest, Nests n m.2 ∧ ts = memberTokens m ++ rest ∧
      run? (.nextMember (m :: before)) waiting rest = some result := by
  obtain ⟨name, more, hts, hrun⟩ := exists_name_of_run? hrun
  have hmore : more.length < ts.length := by rw [hts, List.length_cons, List.length_cons]; omega
  obtain ⟨v, rest, hv, hmore', hresume⟩ :=
    exists_of_run?_value (n := n) (by rw [List.length_cons]; omega) hrun
  exact ⟨(name, v), rest, hv, by rw [hts, hmore', memberTokens]; rfl, hresume⟩
termination_by 2 * ts.length

/-- A run behind a member takes the members after it and the end of the object. -/
theorem exists_of_run?_members {n : Nat} {waiting : List Frame} {ts : List Token}
    {before : List (Text × Json)} (hroom : waiting.length + (n + 1) = maxDepth)
    (hrun : run? (.nextMember before) waiting ts = some result) :
    ∃ ms rest, (∀ m ∈ ms, Nests n m.2) ∧ ts = membersTokens ms ++ .closeObject :: rest ∧
      (place (object (before.reverse ++ ms)) waiting).resume rest = some result := by
  obtain ⟨token, more, progress, hts, hstep, hresume⟩ := exists_step_of_run? hrun
  have hmore : more.length < ts.length := by rw [hts]; exact Nat.lt_succ_self _
  rcases step?_nextMember_cases hstep with ⟨rfl, rfl⟩ | ⟨rfl, rfl⟩
  · exact ⟨[], more, nofun, by rw [hts, membersTokens]; rfl, by rwa [List.append_nil]⟩
  · obtain ⟨m, others, hm, hmore', hresume⟩ := exists_of_run?_name hroom hresume
    have hothers : others.length ≤ more.length := by rw [hmore', List.length_append]; omega
    obtain ⟨ms, rest, hms, hrest, hresume⟩ := exists_of_run?_members hroom hresume
    refine ⟨m :: ms, rest, List.forall_mem_cons.2 ⟨hm, hms⟩, ?_, ?_⟩
    · simp only [membersTokens, hts, hmore', hrest, List.cons_append, List.append_assoc]
    · rwa [List.reverse_cons, List.append_assoc] at hresume
termination_by 2 * ts.length

end

/-- The reader takes a value off a text exactly when the tokens of the text begin with those of the
value and there is room for its containers; what it leaves are the tokens after them. -/
theorem read?_eq_some_iff {t : Text} {v : Json} {rest : List Token} :
    read? t = some (v, rest) ↔ Nests maxDepth v ∧ Token.scan t = tokens v ++ rest := by
  rw [read?]
  constructor
  · intro h
    obtain ⟨w, more, hw, hscan, hresume⟩ := exists_of_run?_value (n := maxDepth) (by simp) h
    cases hresume
    exact ⟨hw, hscan⟩
  · rintro ⟨hv, hscan⟩
    rw [hscan, hv.reads [] rest (by simp)]
    rfl

mutual

theorem bad_notMem_tokens : (v : Json) → Token.bad ∉ tokens v
  | null | bool _ | number _ | string _ | array [] | object [] => by simp [tokens]
  | array (v :: vs) => by simp [tokens, bad_notMem_tokens v, bad_notMem_elementTokens vs]
  | object (m :: ms) => by simp [tokens, bad_notMem_memberTokens m, bad_notMem_membersTokens ms]

theorem bad_notMem_elementTokens : (vs : List Json) → Token.bad ∉ elementTokens vs
  | [] => by simp [elementTokens]
  | v :: vs => by simp [elementTokens, bad_notMem_tokens v, bad_notMem_elementTokens vs]

theorem bad_notMem_memberTokens : (m : Text × Json) → Token.bad ∉ memberTokens m
  | (_, v) => by simp [memberTokens, bad_notMem_tokens v]

theorem bad_notMem_membersTokens : (ms : List (Text × Json)) → Token.bad ∉ membersTokens ms
  | [] => by simp [membersTokens]
  | m :: ms => by simp [membersTokens, bad_notMem_memberTokens m, bad_notMem_membersTokens ms]

end

/-- The texts of a value are those that spell its tokens, as long as there is room for it. -/
theorem read?_eq_some_nil_iff {t : Text} {v : Json} :
    read? t = some (v, []) ↔ Nests maxDepth v ∧ Token.Spelled (tokens v) t := by
  rw [read?_eq_some_iff, List.append_nil, Token.spelled_iff_scan_eq]
  exact and_congr_right fun _ ↦ ⟨fun h ↦ ⟨h, bad_notMem_tokens v⟩, And.left⟩

end DocComment.Json
