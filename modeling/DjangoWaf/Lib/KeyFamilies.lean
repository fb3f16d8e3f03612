import DjangoWaf.Lib.KeySpace

/-!
# Families of keys

A program names the keys of one key space by families, one function from names to keys for each. A
family is a key space of its own (`KeySpace.family`), and what a command does at a key is seen there
in one of two ways:

* when the key is the key of a name, the family sees **the same command at that name**
  (`family_setex`, `family_delete`, `family_incr_expire`), as long as no two names have one key;
* when it is the key of no name, the family sees **nothing** (`LocalAt.family_eq`).
-/

namespace KeySpace

variable {K N T V : Type*}

/-- The cells of a family of keys, under their names. -/
def family (name : N → K) (s : KeySpace K T V) : KeySpace N T V := ⟨fun n ↦ s.cell (name n)⟩

/-- Which keys there are and until when, without their values. -/
def presence (s : KeySpace K T V) : KeySpace K T Unit :=
  ⟨fun k ↦ (s.cell k).map fun c ↦ ⟨(), c.deadline⟩⟩

/-- A command that changes the cell of one key at most. -/
def LocalAt (k : K) (command : KeySpace K T V → KeySpace K T V) : Prop :=
  ∀ s k', k' ≠ k → (command s).cell k' = s.cell k'

theorem get_family [LinearOrder T] (name : N → K) (s : KeySpace K T V) (now : T) (n : N) :
    (s.family name).get now n = s.get now (name n) := rfl

theorem cell_presence (s : KeySpace K T V) (k : K) :
    s.presence.cell k = (s.cell k).map fun c ↦ ⟨(), c.deadline⟩ := rfl

/-! ### Local commands -/

section Commands

variable [DecidableEq K]

theorem localAt_setex [Add T] (now : T) (k : K) (ttl : T) (v : V) :
    LocalAt k fun s : KeySpace K T V ↦ s.setex now k ttl v :=
  fun s _ hk ↦ s.cell_setex_of_ne now ttl v hk

theorem localAt_delete (k : K) : LocalAt k fun s : KeySpace K T V ↦ s.delete k :=
  fun s _ hk ↦ Function.update_of_ne hk _ s.cell

variable [LinearOrder T]

theorem localAt_incr (now : T) (k : K) : LocalAt k fun s : KeySpace K T ℕ ↦ s.incr now k := by
  intro s k' hk
  show (s.incr now k).cell k' = s.cell k'
  rw [incr]
  split
  · exact s.cell_put_of_ne _ hk
  · exact s.cell_put_of_ne _ hk

theorem localAt_expire [Add T] (now : T) (k : K) (ttl : T) :
    LocalAt k fun s : KeySpace K T V ↦ s.expire now k ttl := by
  intro s k' hk
  show (s.expire now k ttl).cell k' = s.cell k'
  rw [expire]
  split
  · exact s.cell_put_of_ne _ hk
  · rfl

/-- The pair that keeps a counter. -/
theorem localAt_incr_expire [Add T] (now : T) (k : K) (ttl : T) :
    LocalAt k fun s : KeySpace K T ℕ ↦ (s.incr now k).expire now k ttl := fun s k' hk ↦
  (localAt_expire now k ttl _ k' hk).trans (localAt_incr now k s k' hk)

end Commands

/-! ### What a family sees -/

section Families

variable {name : N → K}

/-- A command at the key of no name. -/
theorem LocalAt.family_eq {k : K} {command : KeySpace K T V → KeySpace K T V}
    (h : LocalAt k command) (hname : ∀ n, name n ≠ k) (s : KeySpace K T V) :
    (command s).family name = s.family name :=
  KeySpace.ext (funext fun n ↦ h s (name n) (hname n))

/-- Commands that leave one cell at a name and at its key. -/
theorem LocalAt.family_comm (hname : Function.Injective name) {n : N}
    {command : KeySpace K T V → KeySpace K T V} (h : LocalAt (name n) command)
    {command' : KeySpace N T V → KeySpace N T V} (h' : LocalAt n command') {s : KeySpace K T V}
    (hself : (command s).cell (name n) = (command' (s.family name)).cell n) :
    (command s).family name = command' (s.family name) := by
  refine KeySpace.ext (funext fun n' ↦ ?_)
  show (command s).cell (name n') = (command' (s.family name)).cell n'
  rcases eq_or_ne n' n with rfl | hne
  · exact hself
  · rw [h s _ fun heq ↦ hne (hname heq), h' _ n' hne]
    rfl

variable [DecidableEq K]

theorem presence_setex [Add T] (s : KeySpace K T V) (now : T) (k : K) (ttl : T) (v : V) :
    (s.setex now k ttl v).presence = s.presence.setex now k ttl () := by
  refine KeySpace.ext (funext fun k' ↦ ?_)
  rcases eq_or_ne k' k with rfl | hk
  · rw [cell_setex_self, cell_presence, cell_setex_self]
    rfl
  · rw [cell_setex_of_ne _ _ _ _ hk, cell_presence, cell_setex_of_ne _ _ _ _ hk, cell_presence]

theorem presence_delete (s : KeySpace K T V) (k : K) :
    (s.delete k).presence = s.presence.delete k := by
  refine KeySpace.ext (funext fun k' ↦ ?_)
  rcases eq_or_ne k' k with rfl | hk
  · rw [cell_delete_self, cell_presence, cell_delete_self]
    rfl
  · rw [localAt_delete k _ k' hk, cell_presence, localAt_delete k _ k' hk, cell_presence]

variable [DecidableEq N]

theorem family_setex [Add T] (hname : Function.Injective name) (s : KeySpace K T V) (now : T)
    (n : N) (ttl : T) (v : V) :
    (s.setex now (name n) ttl v).family name = (s.family name).setex now n ttl v :=
  (localAt_setex now _ ttl v).family_comm hname (localAt_setex now n ttl v)
    (by rw [cell_setex_self, cell_setex_self])

theorem family_delete (hname : Function.Injective name) (s : KeySpace K T V) (n : N) :
    (s.delete (name n)).family name = (s.family name).delete n :=
  (localAt_delete _).family_comm hname (localAt_delete n)
    (by rw [cell_delete_self, cell_delete_self])

/-- A counter of the family. -/
theorem family_incr_expire [LinearOrder T] [Add T] (hname : Function.Injective name)
    (s : KeySpace K T ℕ) (now : T) (n : N) (ttl : T) :
    ((s.incr now (name n)).expire now (name n) ttl).family name =
      ((s.family name).incr now n).expire now n ttl :=
  (localAt_incr_expire now _ ttl).family_comm hname (localAt_incr_expire now n ttl)
    (by rw [cell_incr_expire_self, cell_incr_expire_self, get_family])

end Families

end KeySpace
