import Galley.Proofs.File.LineReading

/-! # The control block fits

The check of a configuration accepts a memory whose end is a 32-bit address, with some of its
pages, but not all, set aside for the continuation (`Config.check_eq_ok_iff`).  That is just
enough for a suspension: the two control words lie inside such a memory, each of them holds
the whole number that it is to tell, and the signed address that the guest gets leads back to
where they are (`ControlBlock.fits`).  A start above 2³¹ is a negative address, and none of
this depends on which side of it the start lies. -/
namespace Galley

/-- **What the check accepts.** -/
theorem Config.check_eq_ok_iff (c : Config) : c.check = .ok () ↔
    c.memoryBytes < 2 ^ 32 ∧ 0 < c.continuationPages ∧ c.continuationPages < c.memoryPages ∧ 0 < c.contexts := by
  have hbytes : c.memoryBytes < 2 ^ 32 ↔ ¬ c.memoryPages > maxMemoryPages := by
    simp only [memoryBytes, pageSize, maxMemoryPages]
    omega
  have hgeometry : 0 < c.continuationPages ∧ c.continuationPages < c.memoryPages ↔
      ¬ (c.continuationPages == 0 || c.continuationPages ≥ c.memoryPages) = true := by
    simp only [Bool.or_eq_true, beq_iff_eq, decide_eq_true_eq]
    omega
  have hcontexts : 0 < c.contexts ↔ ¬ (c.contexts == 0) = true := by
    rw [beq_iff_eq]
    omega
  rw [hbytes, ← and_assoc (a := 0 < c.continuationPages), hgeometry, hcontexts, check]
  by_cases hlarge : c.memoryPages > maxMemoryPages
  · rw [if_pos hlarge]
    exact ⟨nofun, fun h => absurd hlarge h.1⟩
  · rw [if_neg hlarge]
    by_cases hroom : (c.continuationPages == 0 || c.continuationPages ≥ c.memoryPages) = true
    · rw [if_pos hroom]
      exact ⟨nofun, fun h => absurd hroom h.2.1⟩
    · rw [if_neg hroom]
      by_cases hnone : (c.contexts == 0) = true
      · rw [if_pos hnone]
        exact ⟨nofun, fun h => absurd hnone h.2.2⟩
      · rw [if_neg hnone]
        exact ⟨fun _ => ⟨hlarge, hroom, hnone⟩, fun _ => rfl⟩

namespace ControlBlock

variable {b : ControlBlock} {m : Memory}

/-- Both words can be read back once they are written. -/
theorem readWord_of_prepare (hroom : b.start + 8 ≤ m.size) :
    ∃ n, b.prepare m = .ok () n ∧ b.Alike m n ∧ n.readWord b.start = .ok (UInt32.ofNat (b.start + 8)) ∧
      n.readWord (b.start + 4) = .ok (UInt32.ofNat b.stop) := by
  let first := Memory.wordBytes (UInt32.ofNat (b.start + 8))
  let second := Memory.wordBytes (UInt32.ofNat b.stop)
  have hfirst : b.start + 4 ≤ m.size := by omega
  have hsecond : b.start + 4 + 4 ≤ (m.patch b.start first).size := by
    rwa [Memory.size_patch hfirst]
  obtain ⟨n, hprepare, halike⟩ := prepare_eq_ok hroom
  obtain rfl : n = (m.patch b.start first).patch (b.start + 4) second := by
    rw [prepare_eq hroom] at hprepare
    cases hprepare
    rfl
  refine ⟨_, hprepare, halike, ?_, Memory.readWord_patch hsecond⟩
  -- the second word lies behind the first one
  have hapart : ((m.patch b.start first).patch (b.start + 4) second).read b.start 4 =
      (m.patch b.start first).read b.start 4 := Memory.read_patch_of_apart hsecond (Or.inl (Nat.le_refl _))
  rw [Memory.readWord, hapart]
  exact Memory.readWord_patch hfirst

/-- An address of 32 bits survives being handed out as a signed word. -/
theorem address_address (hstart : b.start < 2 ^ 32) : Memory.address b.address = b.start := by
  have hsame : b.address.toUInt32 = UInt32.ofNat b.start := rfl
  rw [Memory.address, hsame]
  exact UInt32.toNat_ofNat_of_lt' hstart

/-- The continuation pages are the top of the memory, with room for more than the two words, and
end at a 32-bit address. -/
theorem room_of_check {c : Config} (hc : c.check = .ok ()) :
    (ofConfig c).start + c.continuationPages * Config.pageSize = c.memoryBytes ∧
      (ofConfig c).start + 8 < c.memoryBytes ∧ c.memoryBytes < 2 ^ 32 := by
  obtain ⟨hbytes, hsome, hfewer, -⟩ := c.check_eq_ok_iff.mp hc
  refine ⟨?_, ?_, hbytes⟩
  · rw [ofConfig, Config.memoryBytes, ← Nat.add_mul, Nat.sub_add_cancel hfewer.le]
  · simp only [ofConfig, Config.memoryBytes, Config.pageSize]
    omega

/-- **The control block fits.**  In a memory of the size that a checked configuration asks for,
the continuation pages are not more than there are, the two words can be written and are the only
bytes that change, they say where the stack begins and where the memory ends, and the address of
the block, a signed word, leads back to it. -/
theorem fits {c : Config} (hc : c.check = .ok ()) {m : Memory} (hm : m.size = c.memoryBytes) :
    c.continuationPages ≤ c.memoryPages ∧
      (ofConfig c).start + c.continuationPages * Config.pageSize = m.size ∧
      (ofConfig c).start + 8 < (ofConfig c).stop ∧ (ofConfig c).stop = m.size ∧
      (ofConfig c).prepare? = some (ofConfig c).prepare ∧
      (∃ n first second, (ofConfig c).prepare m = .ok () n ∧ n.size = m.size ∧
        (∀ i, i < (ofConfig c).start ∨ (ofConfig c).start + 8 ≤ i → n.bytes.data[i]? = m.bytes.data[i]?) ∧
        n.readWord (ofConfig c).start = .ok first ∧ first.toNat = (ofConfig c).start + 8 ∧
        n.readWord ((ofConfig c).start + 4) = .ok second ∧ second.toNat = (ofConfig c).stop) ∧
      Memory.address (ofConfig c).address = (ofConfig c).start := by
  obtain ⟨hpages, hroom, hbytes⟩ := room_of_check hc
  obtain ⟨-, -, hfewer, -⟩ := c.check_eq_ok_iff.mp hc
  have hstop : (ofConfig c).stop = c.memoryBytes := rfl
  have hplaced : (ofConfig c).isPlaced = true := by
    have hword : wordBound = 2 ^ 64 := rfl
    rw [isPlaced, decide_eq_true_eq, hword]
    omega
  have hprepare : (ofConfig c).prepare? = some (ofConfig c).prepare := by
    rw [prepare?, if_pos hplaced]
  obtain ⟨n, hn, halike, hfirst, hsecond⟩ := readWord_of_prepare (b := ofConfig c) (m := m) (by omega)
  refine ⟨hfewer.le, hm ▸ hpages, hroom, hm.symm, hprepare, ?_, address_address (by omega)⟩
  refine ⟨n, _, _, hn, halike.size.symm, fun i hi => (halike.byte i ?_).symm, hfirst, ?_, hsecond, ?_⟩
  · intro hhides
    obtain ⟨hlow, hhigh⟩ := hhides
    omega
  · exact UInt32.toNat_ofNat_of_lt' (by change _ < 2 ^ 32; omega)
  · exact UInt32.toNat_ofNat_of_lt' (by change _ < 2 ^ 32; omega)

/-- The largest memory there can be, with one page for the continuation. -/
def largestMemory : Config := { Config.standard with memoryPages := 65535, continuationPages := 1 }

theorem start_largestMemory : (ofConfig largestMemory).start = 4294836224 := by
  simp only [largestMemory, ofConfig, Config.pageSize, Nat.reduceSub, Nat.reduceMul]

/-- In the largest memory the block starts above 2³¹, and its address is negative. -/
theorem fits_largest :
    largestMemory.check = .ok () ∧ (ofConfig largestMemory).start = 4294836224 ∧
      (ofConfig largestMemory).address.toInt = -131072 ∧
      (∃ n first second, (ofConfig largestMemory).prepare (Memory.zeroed largestMemory.memoryBytes) = .ok () n ∧
        n.readWord (ofConfig largestMemory).start = .ok first ∧ first.toNat = (ofConfig largestMemory).start + 8 ∧
        n.readWord ((ofConfig largestMemory).start + 4) = .ok second ∧ second.toNat = (ofConfig largestMemory).stop) ∧
      Memory.address (ofConfig largestMemory).address = (ofConfig largestMemory).start := by
  have hc : largestMemory.check = .ok () := rfl
  have hm : (Memory.zeroed largestMemory.memoryBytes).size = largestMemory.memoryBytes := size_zeros _
  have haddress : (ofConfig largestMemory).address.toInt = -131072 := by
    rw [address, start_largestMemory]
    decide
  obtain ⟨-, -, -, -, -, ⟨n, first, second, hn, -, -, hwords⟩, hback⟩ := fits hc hm
  exact ⟨hc, start_largestMemory, haddress, ⟨n, first, second, hn, hwords⟩, hback⟩

end ControlBlock
end Galley
