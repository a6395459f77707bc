/-
The virtual hosts that brokers are addressed by. A virtual host is a number of
slashes and what comes behind them, in one way only, and all questions about
it are about these two (`Behind`): it is the default one for a single slash
and nothing behind, and any other is addressed by what is behind its slashes.

One slash in front is left out as it should be. Of several, all are left out:
then the address is not the virtual host without a slash, two virtual hosts
that differ in more than a slash share an address, and of slashes alone
nothing remains to address (`no_host_left`). Virtual hosts that begin with two
slashes are all that this is about (`address_of_valid`).
-/
import Courier.Settings.Connection

namespace Courier.Settings

-- ===================================================== statement vocabulary

/-- A text of slashes. -/
def slashes (n : Nat) : String := String.ofList (List.replicate n '/')

/-- A text of so many slashes and what comes behind them. -/
structure Behind (v : String) (n : Nat) (rest : String) : Prop where
  split : v = slashes n ++ rest
  bare : rest.toList.head? ≠ some '/'

/-- A virtual host without the slash in front of it; the default one as it is. -/
def withoutSlash (v : String) : String :=
  if v = "/" then v
  else match v.toList with
    | '/' :: rest => String.ofList rest
    | _ => v

/-- A text that begins with two slashes. -/
def BeginsWithTwo (v : String) : Prop := ∃ rest, v = "//" ++ rest

/-- Texts that are the same but for a slash in front of one of them. -/
def SameButSlash (v w : String) : Prop := v = w ∨ v = "/" ++ w ∨ w = "/" ++ v

-- ================================================================== slashes

variable {v w rest rest' : String} {m n : Nat}

theorem toList_slashes_append (n : Nat) (rest : String) :
    (slashes n ++ rest).toList = List.replicate n '/' ++ rest.toList := by
  rw [String.toList_append, slashes, String.toList_ofList]

theorem slashes_zero_append (rest : String) : slashes 0 ++ rest = rest := by
  rw [← String.toList_inj, toList_slashes_append]
  rfl

theorem slashes_add (m n : Nat) (rest : String) :
    slashes (m + n) ++ rest = slashes m ++ (slashes n ++ rest) := by
  rw [← String.toList_inj]
  simp only [toList_slashes_append, ← List.replicate_append_replicate, List.append_assoc]

/-- Every text is some slashes and what is behind them. -/
theorem exists_behind (v : String) : ∃ n rest, Behind v n rest := by
  refine ⟨(v.toList.takeWhile (· == '/')).length, String.ofList (v.toList.dropWhile (· == '/')),
    ?_, ?_⟩
  · have front : v.toList.takeWhile (· == '/')
        = List.replicate (v.toList.takeWhile (· == '/')).length '/' := by
      refine List.eq_replicate_iff.2 ⟨rfl, fun c member => ?_⟩
      exact beq_iff_eq.1 (List.all_eq_true.1 (List.all_takeWhile ..) c member)
    rw [← String.toList_inj, toList_slashes_append, String.toList_ofList, ← front,
      List.takeWhile_append_dropWhile]
  · rw [String.toList_ofList]
    intro slash
    have stopped := List.head?_dropWhile_not (· == '/') v.toList
    rw [slash] at stopped
    exact absurd stopped (by decide)

/-- Nothing but the slashes is left out. -/
theorem Behind.dropWhile_eq (behind : Behind v n rest) :
    v.toList.dropWhile (· == '/') = rest.toList := by
  obtain ⟨rfl, bare⟩ := behind
  rw [toList_slashes_append, List.dropWhile_append_of_pos (by simp)]
  cases chars : rest.toList with
  | nil => rfl
  | cons c cs =>
      rw [chars] at bare
      refine List.dropWhile_cons_of_neg fun slash => bare ?_
      rw [List.head?_cons, beq_iff_eq.1 slash]

/-- There is one way to see a text so. -/
theorem Behind.unique (behind : Behind v n rest) (behind' : Behind v m rest') :
    n = m ∧ rest = rest' := by
  have same : rest = rest' :=
    String.toList_inj.1 (behind.dropWhile_eq.symm.trans behind'.dropWhile_eq)
  have lengths := congrArg (List.length ∘ String.toList) (behind.split.symm.trans behind'.split)
  simp only [Function.comp_apply, toList_slashes_append, List.length_append,
    List.length_replicate, same] at lengths
  exact ⟨Nat.add_right_cancel lengths, same⟩

/-- More slashes in front. -/
theorem Behind.add (behind : Behind v n rest) (m : Nat) : Behind (slashes m ++ v) (m + n) rest :=
  ⟨by rw [behind.split, slashes_add], behind.bare⟩

theorem behind_slashes (n : Nat) : Behind (slashes n) n "" := by
  refine ⟨?_, by decide⟩
  rw [← String.toList_inj, toList_slashes_append, slashes, String.toList_ofList]
  exact (List.append_nil _).symm

theorem Behind.eq_slashes_iff (behind : Behind v n rest) : v = slashes m ↔ n = m ∧ rest = "" := by
  constructor
  · rintro rfl
    exact behind.unique (behind_slashes m)
  · rintro ⟨rfl, rfl⟩
    rw [behind.split]
    exact (behind_slashes n).split.symm

/-- The default virtual host is a slash and nothing behind it. -/
theorem Behind.eq_slash_iff (behind : Behind v n rest) : v = "/" ↔ n = 1 ∧ rest = "" := by
  have single : slashes 1 = "/" := rfl
  rw [← single]
  exact behind.eq_slashes_iff

theorem Behind.beginsWithTwo_iff (behind : Behind v n rest) : BeginsWithTwo v ↔ 2 ≤ n := by
  constructor
  · rintro ⟨tail, rfl⟩
    obtain ⟨k, end_, tailed⟩ := exists_behind tail
    have counted := (behind.unique (tailed.add 2)).1
    omega
  · intro two
    obtain ⟨k, rfl⟩ := Nat.exists_eq_add_of_le two
    exact ⟨slashes k ++ rest, by rw [behind.split, slashes_add]; rfl⟩

-- ================================================================ addresses

/-- What is behind the slashes is addressed. -/
theorem Behind.addressedHost_eq (behind : Behind v n rest) (other : v ≠ "/") :
    Connection.addressedHost v = rest := by
  rw [Connection.addressedHost, if_neg other, behind.dropWhile_eq, String.ofList_toList]

theorem Behind.withoutSlash_eq (behind : Behind v n rest) (other : v ≠ "/") :
    withoutSlash v = slashes (n - 1) ++ rest := by
  obtain ⟨rfl, bare⟩ := behind
  rw [withoutSlash, if_neg other, toList_slashes_append]
  cases n with
  | zero =>
      rw [List.replicate_zero, List.nil_append]
      split
      next tail chars =>
        rw [chars] at bare
        exact absurd rfl bare
      next => rfl
  | succ n =>
      rw [List.replicate_succ, List.cons_append, ← toList_slashes_append, Nat.add_sub_cancel]
      exact String.ofList_toList

/-- One slash is left out, and of two and more, more than that. -/
theorem addressedHost_eq_withoutSlash_iff :
    Connection.addressedHost v = withoutSlash v ↔ ¬ BeginsWithTwo v := by
  obtain ⟨n, rest, behind⟩ := exists_behind v
  rw [behind.beginsWithTwo_iff]
  by_cases default : v = "/"
  · have one := (behind.eq_slash_iff.1 default).1
    subst default
    exact iff_of_true rfl (by omega)
  · rw [behind.addressedHost_eq default, behind.withoutSlash_eq default]
    have alone : Behind rest 0 rest := ⟨(slashes_zero_append rest).symm, behind.bare⟩
    constructor
    · intro same two
      have counted := ((same ▸ alone).unique (alone.add (n - 1))).1
      omega
    · intro one
      rw [show n - 1 = 0 by omega, slashes_zero_append]

/-- Nothing is left of two slashes and more, if there is nothing else. -/
theorem addressedHost_eq_empty_iff (given : v ≠ "") :
    Connection.addressedHost v = "" ↔ ∃ n, 2 ≤ n ∧ v = slashes n := by
  obtain ⟨n, rest, behind⟩ := exists_behind v
  have some : ¬ (n = 0 ∧ rest = "") := fun none => given (behind.eq_slashes_iff.2 none)
  by_cases default : v = "/"
  · have one := (behind.eq_slash_iff.1 default).1
    refine iff_of_false (fun none => ?_) ?_
    · subst default
      exact absurd none (by decide)
    · rintro ⟨m, two, slashed⟩
      have counted := (behind.eq_slashes_iff.1 slashed).1
      omega
  · rw [behind.addressedHost_eq default]
    constructor
    · rintro rfl
      have several : n ≠ 0 ∧ n ≠ 1 :=
        ⟨fun none => some ⟨none, rfl⟩, fun one => default (behind.eq_slash_iff.2 ⟨one, rfl⟩)⟩
      exact ⟨n, by omega, behind.eq_slashes_iff.2 ⟨rfl, rfl⟩⟩
    · rintro ⟨m, -, slashed⟩
      exact (behind.eq_slashes_iff.1 slashed).2

/-- No other virtual host is addressed as the default one is. -/
theorem addressedHost_ne_slash (other : v ≠ "/") : Connection.addressedHost v ≠ "/" := by
  obtain ⟨n, rest, behind⟩ := exists_behind v
  rw [behind.addressedHost_eq other]
  rintro rfl
  exact absurd behind.bare (by decide)

/-- Two virtual hosts have one address if they differ in the number of their
slashes only, and neither is the default one. -/
theorem addressedHost_eq_iff : Connection.addressedHost v = Connection.addressedHost w
    ↔ v = w ∨ (v ≠ "/" ∧ w ≠ "/"
      ∧ ∃ m n rest, v = slashes m ++ rest ∧ w = slashes n ++ rest) := by
  constructor
  · intro same
    by_cases default : v = "/"
    · subst default
      exact .inl (Classical.byContradiction fun differ =>
        addressedHost_ne_slash (Ne.symm differ) same.symm)
    by_cases default' : w = "/"
    · subst default'
      exact absurd same (addressedHost_ne_slash default)
    obtain ⟨m, rest, behind⟩ := exists_behind v
    obtain ⟨n, rest', behind'⟩ := exists_behind w
    rw [behind.addressedHost_eq default, behind'.addressedHost_eq default'] at same
    exact .inr ⟨default, default', m, n, rest, behind.split, same ▸ behind'.split⟩
  · rintro (rfl | ⟨default, default', m, n, tail, rfl, rfl⟩)
    · rfl
    obtain ⟨k, rest, behind⟩ := exists_behind tail
    rw [(behind.add m).addressedHost_eq default, (behind.add n).addressedHost_eq default']

/-- Where no virtual host begins with two slashes, those of one address differ in
one at most. -/
theorem sameButSlash_of_addressedHost_eq (one : ¬ BeginsWithTwo v) (one' : ¬ BeginsWithTwo w)
    (same : Connection.addressedHost v = Connection.addressedHost w) : SameButSlash v w := by
  rcases addressedHost_eq_iff.1 same with same | ⟨-, -, m, n, tail, split, split'⟩
  · exact .inl same
  obtain ⟨k, rest, behind⟩ := exists_behind tail
  rw [split, (behind.add m).beginsWithTwo_iff] at one
  rw [split', (behind.add n).beginsWithTwo_iff] at one'
  have numbers : m = n ∨ (m = 1 ∧ n = 0) ∨ (m = 0 ∧ n = 1) := by omega
  rw [split, split']
  rcases numbers with rfl | ⟨rfl, rfl⟩ | ⟨rfl, rfl⟩
  · exact .inl rfl
  · exact .inr (.inl (by rw [slashes_zero_append]; rfl))
  · exact .inr (.inr (by rw [slashes_zero_append]; rfl))

-- ========================================================== the main result

/-- Accepted settings are addressed with their user, password, host and port as
they are. The default virtual host is addressed as it is, and any other by what
is behind its slashes. Nothing is left of it if it is two slashes or more and
nothing else; a slash in front and nothing else is left out unless it begins
with two; and two virtual hosts have one address if they differ in the number
of their slashes only and neither is the default one, so by one slash at most
unless one of them begins with two. -/
theorem address_of_valid (c : Connection) (valid : c.check = .ok ()) :
    (c.address.user = c.user ∧ c.address.password = c.password ∧ c.address.host = c.host
        ∧ c.address.port = c.port)
      ∧ (c.virtualHost = "/" → c.address.virtualHost = "/")
      ∧ (c.virtualHost ≠ "/" → ∃ n, Behind c.virtualHost n c.address.virtualHost)
      ∧ (c.address.virtualHost = "" ↔ ∃ n, 2 ≤ n ∧ c.virtualHost = slashes n)
      ∧ (c.address.virtualHost = withoutSlash c.virtualHost ↔ ¬ BeginsWithTwo c.virtualHost)
      ∧ ∀ c' : Connection, c'.check = .ok () →
        (c.address.virtualHost = c'.address.virtualHost
          ↔ c.virtualHost = c'.virtualHost ∨ (c.virtualHost ≠ "/" ∧ c'.virtualHost ≠ "/"
            ∧ ∃ m n rest, c.virtualHost = slashes m ++ rest
              ∧ c'.virtualHost = slashes n ++ rest))
        ∧ (¬ BeginsWithTwo c.virtualHost → ¬ BeginsWithTwo c'.virtualHost →
          c.address.virtualHost = c'.address.virtualHost →
            SameButSlash c.virtualHost c'.virtualHost) := by
  refine ⟨⟨rfl, rfl, rfl, rfl⟩, ?_, ?_, ?_, addressedHost_eq_withoutSlash_iff, ?_⟩
  · intro default
    rw [Connection.address, default]
    rfl
  · intro other
    obtain ⟨n, rest, behind⟩ := exists_behind c.virtualHost
    have addressed : c.address.virtualHost = rest := behind.addressedHost_eq other
    exact ⟨n, addressed ▸ behind⟩
  · have given := (Connection.check_eq_ok_iff.1 valid).2.1
    refine addressedHost_eq_empty_iff fun none => ?_
    rw [none, Text.isBlank_empty] at given
    cases given
  · intro c' _
    exact ⟨addressedHost_eq_iff, sameButSlash_of_addressedHost_eq⟩

/-- Settings with a virtual host. -/
def tenant (virtualHost : String) : Connection where
  virtualHost := virtualHost

/-- The slash in front is left out, and the one further on is not. -/
theorem address_of_tenant :
    (tenant "/a/b").check = .ok () ∧ (tenant "a/b").check = .ok ()
      ∧ ¬ BeginsWithTwo "/a/b" ∧ ¬ BeginsWithTwo "a/b"
      ∧ (tenant "/a/b").address.virtualHost = withoutSlash "/a/b"
      ∧ (tenant "/a/b").address.virtualHost = (tenant "a/b").address.virtualHost
      ∧ SameButSlash "/a/b" "a/b" := by
  have behind : Behind "/a/b" 1 "a/b" := ⟨rfl, by decide⟩
  have behind' : Behind "a/b" 0 "a/b" := ⟨rfl, by decide⟩
  have one : ¬ BeginsWithTwo "/a/b" := by
    rw [behind.beginsWithTwo_iff]
    decide
  have none : ¬ BeginsWithTwo "a/b" := by
    rw [behind'.beginsWithTwo_iff]
    decide
  obtain ⟨-, -, -, -, without, others⟩ := address_of_valid (tenant "/a/b") rfl
  obtain ⟨agree, differ⟩ := others (tenant "a/b") rfl
  have same := agree.2 (.inr ⟨by decide, by decide, 1, 0, "a/b", rfl, rfl⟩)
  exact ⟨rfl, rfl, one, none, without.2 one, same, differ one none same⟩

/-- Two slashes are accepted and leave nothing to address. -/
theorem no_host_left :
    (tenant "//").check = .ok () ∧ (tenant "//").address.virtualHost = ""
      ∧ withoutSlash "//" = "/"
      ∧ (tenant "//a").check = .ok () ∧ (tenant "a").check = .ok ()
      ∧ (tenant "//a").address.virtualHost = (tenant "a").address.virtualHost
      ∧ ¬ SameButSlash "//a" "a" := by
  refine ⟨rfl, rfl, rfl, rfl, rfl, rfl, ?_⟩
  unfold SameButSlash
  decide

end Courier.Settings
