import FuchsiaVfs.Directory.System

/-!
# Tokens stay valid

`GetToken` answers the token the scope's registry binds to the connection's directory, and mints
one when there is none. The registry only grows, and a minted token is the registry's length, so
no token is ever bound twice (`TokenRegistry.WellFormed`). Hence in every reachable world, every
token a `GetToken` answered still names, in the registry, the directory of the connection that
asked (`getToken_answers_valid`). A later `Link` or `Rename` that presents the token reaches
that directory, whatever requests other connections have served in between. With
`TokensMinted` (every binding was answered so), the registry binds exactly the tokens that
`GetToken` answered. The registry is not under `src/` and the spec leaves its implementation out
of scope; this is a property of the modelled registry, which never drops a binding. The spec's
invalidation of a token once it is consumed or its connection is torn down is not modelled.
-/

namespace FuchsiaVfs

namespace TokenRegistry

/-- No token is bound twice, and every token is below the registry's length, the next one
`getToken` mints. -/
def WellFormed (reg : TokenRegistry) : Prop :=
  (reg.map Prod.fst).Nodup ∧ ∀ p ∈ reg, p.1 < reg.length

theorem getContainer_of_mem : ∀ {reg : TokenRegistry} {t d : Nat}, (reg.map Prod.fst).Nodup →
    (t, d) ∈ reg → reg.getContainer t = some d
  | (t', d') :: rest, t, d, hnd, h => by
    rw [List.map_cons, List.nodup_cons] at hnd
    rcases List.mem_cons.1 h with h | h
    · cases h
      simp [getContainer]
    · have ht : (t' == t) = false := by
        simpa using fun e : t' = t => hnd.1 (List.mem_map.2 ⟨_, h, e.symm⟩)
      have ih := getContainer_of_mem hnd.2 h
      simp only [getContainer, List.find?_cons, ht] at ih ⊢
      exact ih

theorem mem_getToken_of_mem {reg : TokenRegistry} {p : Nat × Nat} (h : p ∈ reg) (d : Nat) :
    p ∈ (reg.getToken d).2 := by
  unfold getToken
  split
  · exact h
  · exact List.mem_append_left _ h

section
variable {reg : TokenRegistry}

/-- A minted token is fresh, so the registry stays well formed. -/
theorem WellFormed.getToken (hwf : reg.WellFormed) (d : Nat) : (reg.getToken d).2.WellFormed := by
  unfold TokenRegistry.getToken
  split
  · exact hwf
  · refine ⟨?_, fun p hp => ?_⟩
    · rw [List.map_append, List.nodup_append]
      refine ⟨hwf.1, List.nodup_singleton _, ?_⟩
      intro _ ha hb
      obtain ⟨p, hp, rfl⟩ := List.mem_map.1 ha
      simp only [List.map_cons, List.map_nil, List.mem_singleton] at hb
      exact absurd (hwf.2 p hp) (by omega)
    · rcases List.mem_append.1 hp with hp | hp
      · simpa using Nat.lt_succ_of_lt (hwf.2 p hp)
      · simp_all

/-- The token `getToken` answers names the directory in the registry it leaves. -/
theorem WellFormed.getContainer_getToken (hwf : reg.WellFormed) (d : Nat) :
    (reg.getToken d).2.getContainer (reg.getToken d).1 = some d := by
  have hnd := (hwf.getToken d).1
  revert hnd
  unfold TokenRegistry.getToken
  split
  · next t d' hf =>
    intro hnd
    have hd : d' = d := by simpa using List.find?_some hf
    exact getContainer_of_mem hnd (hd ▸ List.mem_of_find?_eq_some hf)
  · exact fun hnd => getContainer_of_mem hnd (by simp)

/-- `getToken` keeps every binding. -/
theorem WellFormed.getContainer_getToken_of_eq (hwf : reg.WellFormed) {t d : Nat}
    (h : reg.getContainer t = some d) (d' : Nat) : (reg.getToken d').2.getContainer t = some d :=
  getContainer_of_mem (hwf.getToken d').1 (mem_getToken_of_mem (mem_of_getContainer h) d')

end

end TokenRegistry

/-! ## The handler -/

/-- An `OK` answer to `GetToken` is the registry's token for the connection's directory, and the
registry afterwards is the one `getToken` leaves. -/
theorem handleGetToken_ok {w : World} {c : DirConnection} {t : Nat}
    (h : (handleGetToken w c).response = .token .ok (some t)) :
    ∃ reg, w.registry = some reg ∧
      (handleGetToken w c).registry = some (reg.getToken c.base.directory).2 ∧
      (reg.getToken c.base.directory).1 = t := by
  unfold handleGetToken World.respond at *
  split_ifs at h ⊢
  · cases h
  · cases hreg : w.registry with
    | none => simp [hreg] at h
    | some reg =>
      simp only [hreg] at h ⊢
      cases h
      exact ⟨reg, rfl, rfl, rfl⟩

/-! ## Runs -/

/-- What holds of every reachable world: the registry is well formed, and every token a
`GetToken` answered names the directory of the connection that asked. -/
structure TokenInvariant (w : World) : Prop where
  wellFormed : ∀ reg, w.registry = some reg → reg.WellFormed
  valid : ∀ j t, (j, DirectoryRequest.getToken, DirectoryResponse.token .ok (some t)) ∈ w.log →
    ∃ (cj : DirConnection) (reg : TokenRegistry), w.connections[j]? = some cj ∧
      w.registry = some reg ∧ reg.getContainer t = some cj.base.directory

theorem TokenInvariant.initial {w : World} (h : w.Initial) : TokenInvariant w := by
  obtain ⟨hlog, hreg⟩ := h
  refine ⟨fun reg hr => ?_, fun j t hj => by simp [hlog] at hj⟩
  rcases hreg with h | h <;> rw [h] at hr <;> cases hr
  exact ⟨List.nodup_nil, nofun⟩

/-- What a request leaves of a token's binding: the registry is kept, or grown by `getToken`. -/
theorem handleRequest_getContainer (env : DirectoryEnv) {w : World} (c : DirConnection)
    (req : DirectoryRequest) (hwf : ∀ reg, w.registry = some reg → reg.WellFormed) :
    (∀ reg, (handleRequest env w c req).registry = some reg → reg.WellFormed) ∧
    ∀ reg t d, w.registry = some reg → reg.getContainer t = some d →
      ∃ reg', (handleRequest env w c req).registry = some reg' ∧ reg'.getContainer t = some d := by
  rcases handleRequest_registry env w c req with hr | ⟨-, -, reg₀, hreg₀, hr, -⟩
  · exact ⟨hr ▸ hwf, fun reg t d hreg h => ⟨reg, hr ▸ hreg, h⟩⟩
  · refine ⟨fun reg h => ?_, fun reg t d hreg h => ?_⟩
    · cases hr.symm.trans h
      exact (hwf reg₀ hreg₀).getToken _
    · cases hreg₀.symm.trans hreg
      exact ⟨_, hr, (hwf reg₀ hreg₀).getContainer_getToken_of_eq h _⟩

theorem Step.tokenInvariant {env : DirectoryEnv} {w w' : World} (hs : Step env w w')
    (hi : TokenInvariant w) : TokenInvariant w' := by
  have he := hs.extends
  cases hs with
  | @request i c req hi' _ =>
    obtain ⟨hwf', hkeep⟩ := handleRequest_getContainer env c req hi.wellFormed
    refine ⟨hwf', fun j t hj => ?_⟩
    rcases List.mem_append.1 hj with hj | hj
    · obtain ⟨cj, reg, hcj, hreg, hc⟩ := hi.valid j t hj
      obtain ⟨cj', hcj', hd, -⟩ := he.1 j cj hcj
      obtain ⟨reg', hreg', hc'⟩ := hkeep reg t _ hreg hc
      exact ⟨cj', reg', hcj', hreg', hd ▸ hc'⟩
    · simp only [List.mem_singleton, Prod.mk.injEq] at hj
      obtain ⟨rfl, rfl, hresp⟩ := hj
      obtain ⟨reg, hreg, hr, rfl⟩ := handleGetToken_ok hresp.symm
      refine ⟨_, _, getElem?_set_append _ hi', hr, ?_⟩
      rw [if_pos rfl, (handleRequest_conn env w c .getToken).1]
      exact (hi.wellFormed reg hreg).getContainer_getToken _
  | drop hi' =>
    refine ⟨hi.wellFormed, fun j t hj => ?_⟩
    obtain ⟨cj, reg, hcj, hreg, hc⟩ := hi.valid j t hj
    obtain ⟨cj', hcj', hd, -⟩ := he.1 j cj hcj
    exact ⟨cj', reg, hcj', hreg, hd ▸ hc⟩

theorem Reachable.tokenInvariant {env : DirectoryEnv} {w : World} (hw : Reachable env w) :
    TokenInvariant w := by
  obtain ⟨w₀, h₀, hrun⟩ := hw
  induction hrun with
  | refl => exact TokenInvariant.initial h₀
  | tail _ hs ih => exact hs.tokenInvariant ih

/-- Tokens stay valid: in every world reachable by any interleaving of requests over any number
of connections sharing one registry, every token a `GetToken` answered is bound in the registry
to the directory of the connection that asked for it. -/
theorem getToken_answers_valid {env : DirectoryEnv} {w : World} (hw : Reachable env w)
    {j t : Nat} (h : (j, DirectoryRequest.getToken, DirectoryResponse.token .ok (some t)) ∈ w.log) :
    ∃ (cj : DirConnection) (reg : TokenRegistry), w.connections[j]? = some cj ∧
      w.registry = some reg ∧ reg.getContainer t = some cj.base.directory :=
  hw.tokenInvariant.valid j t h

/-- `getToken_answers_valid` after a writable connection to directory 1 asked for a token. -/
theorem getToken_answers_valid_minted :
    let env : DirectoryEnv := ⟨id, fun _ _ _ => .error .notSupported, fun _ _ => .notSupported,
      ⟨.replace, .replace, .replace⟩⟩
    let c : DirConnection := ⟨⟨1, openRightWritable, .start⟩, true⟩
    let w₀ : World := ⟨Store.empty, [c], some [], []⟩
    let w₁ := w₀.apply 0 .getToken (handleRequest env w₀ c .getToken)
    Reachable env w₁ ∧ (0, DirectoryRequest.getToken, DirectoryResponse.token .ok (some 0)) ∈ w₁.log ∧
    ∃ (cj : DirConnection) (reg : TokenRegistry), w₁.connections[0]? = some cj ∧
      w₁.registry = some reg ∧ reg.getContainer 0 = some cj.base.directory := by
  intro env c w₀ w₁
  have hw : Reachable env w₁ := ⟨w₀, ⟨rfl, .inr rfl⟩, .single (.request (c := c) _ rfl rfl)⟩
  have hlog : (0, DirectoryRequest.getToken, DirectoryResponse.token .ok (some 0)) ∈ w₁.log := by
    simp only [w₁, w₀, c, World.apply, handleRequest]
    decide
  exact ⟨hw, hlog, getToken_answers_valid hw hlog⟩

end FuchsiaVfs
