import CsrMap.Proofs.Bus.WordByWord
import CsrMap.Proofs.Header.Entries

/-!
Driving registers by the text of a header alone.

A program that knows the numbers of the header, and neither the system nor the geometry of its bus,
writes and reads registers word by word. The numbers lead it to all words of a register, with the
bits that each of them carries.
-/

namespace CsrMap

open Header Text BusGeometry

/-! ### The program -/

namespace Header

/-- What the defines say about one word of a register. -/
structure WordDefines where
  address : UInt64
  shift : UInt64
  mask : UInt64
  deriving DecidableEq, Repr

/-- The defines of word number `index`; the distance of a shift is less than the bits of a word. -/
def wordDefines? (table : List (String × UInt64)) (stem : String) (index : ℕ) :
    Option WordDefines := do
  let word := stem ++ "_W" ++ Numeral.decimal index
  let address ← table.lookup (word ++ "_ADDR")
  let shift ← table.lookup (word ++ "_SHIFT")
  let mask ← table.lookup (word ++ "_MASK")
  if shift < 64 then some ⟨address, shift, mask⟩ else none

/-- The addresses and words to write for `value`. The words of a register that takes several are
written in the given order. -/
def writes? (table : List (String × UInt64)) (stem : String) (value : UInt64)
    (order : List ℕ) : Option (List (UInt64 × UInt64)) := do
  let size ← table.lookup (stem ++ "_SIZE")
  if size = 1 then
    let address ← table.lookup (stem ++ "_ADDR")
    pure [(address, value)]
  else
    order.mapM fun index => do
      let word ← wordDefines? table stem index
      pure (word.address, (value >>> word.shift) &&& word.mask)

/-- The value that reads of the bus give together. -/
def readBack? (table : List (String × UInt64)) (stem : String) (m : BusModel) : Option UInt64 := do
  let size ← table.lookup (stem ++ "_SIZE")
  if size = 1 then
    let address ← table.lookup (stem ++ "_ADDR")
    (m.read address).toOption
  else
    (List.range size.toNat).foldlM (fun value index => do
      let word ← wordDefines? table stem index
      let shown ← (m.read word.address).toOption
      pure (value ||| (shown &&& word.mask) <<< word.shift)) 0

/-- The text of a header leads to every register of the system in the state `m`. -/
structure Drives (text : String) (soc : Soc) (m : BusModel) : Prop where
  /-- No symbol is defined as a number twice. -/
  apart : ((numericDefines text).map Prod.fst).Nodup
  write : ∀ bank register r p, soc.register? bank register = some (r, p) → r.access = .storage →
    let stem := upper ("CSR_" ++ bank ++ "_" ++ register)
    ∃ size, (numericDefines text).lookup (stem ++ "_SIZE") = some size ∧
      ∀ value order, order.Perm (List.range size.toNat) →
        ∃ writes m', writes? (numericDefines text) stem value order = some writes ∧
          m.writeAll writes = .ok m' ∧
          m'.value? bank register = some (value &&& r.mask) ∧
          ∀ bank' register', (bank', register') ≠ (bank, register) →
            m'.value? bank' register' = m.value? bank' register'
  read : ∀ bank register r p, soc.register? bank register = some (r, p) →
    let stem := upper ("CSR_" ++ bank ++ "_" ++ register)
    ∃ value, readBack? (numericDefines text) stem m = some value ∧
      m.value? bank register = some value

end Header

/-! ### What the defines lead to -/

namespace Header.Describes

variable {table : List (String × UInt64)} {stem : String} {bus : BusGeometry} {r : Register}
  {start k : ℕ}

lemma toNat_size (hbus : bus.Sound) :
    (bus.wordCount r.width).toUInt64.toNat = bus.wordCount r.width :=
  UInt64.toNat_ofNat_of_lt' ((wordCount_lt hbus.dataWidth_pos).trans (by decide))

lemma size_eq_one_iff (hbus : bus.Sound) :
    (bus.wordCount r.width).toUInt64 = 1 ↔ bus.wordCount r.width = 1 := by
  rw [← UInt64.toNat_inj, toNat_size hbus]
  rfl

lemma wordDefines?_eq (hd : Describes table stem bus r start) (hbus : bus.Sound)
    (hr : r.WellFormed) (hmore : 1 < bus.wordCount r.width) (hk : k < bus.wordCount r.width) :
    wordDefines? table stem k = some ⟨(bus.tile r.width start k).address,
      (bus.tile r.width start k).shift.toUInt64, (bus.tile r.width start k).mask⟩ := by
  obtain ⟨haddress, hshift, hmask⟩ := hd.word hmore k hk
  have hlt : (bus.tile r.width start k).shift.toUInt64 < 64 := by
    rw [UInt64.lt_iff_toNat_lt, UInt32.toNat_toUInt64]
    exact (inWord_of_wellFormed hbus hr hk start).1
  simp only [wordDefines?, haddress, hshift, hmask, hlt, Option.bind_eq_bind, Option.bind_some,
    if_true]

/-- The writes that the defines lead to carry the parts of the value to all words. -/
lemma exists_writes? (hd : Describes table stem bus r start) (hbus : bus.Sound)
    (hr : r.WellFormed) (value : UInt64) {order : List ℕ}
    (horder : order.Perm (List.range (bus.wordCount r.width))) :
    ∃ (indices : List ℕ) (word : ℕ → UInt64),
      writes? table stem value order
        = some (indices.map fun k => ((bus.tile r.width start k).address, word k)) ∧
      (∀ k, k ∈ indices ↔ k < bus.wordCount r.width) ∧
      ∀ k < bus.wordCount r.width,
        word k &&& (bus.tile r.width start k).mask = (bus.tile r.width start k).part value := by
  have hpos := wordCount_pos hbus.dataWidth_pos hr.width_pos
  by_cases hone : bus.wordCount r.width = 1
  · have htile := tile_of_wordCount_eq_one hbus.dataWidth_pos hone start
    refine ⟨[0], fun _ => value, ?_, fun k => by simp [hone], fun k hk => ?_⟩
    · simp only [writes?, hd.size, hd.address, (size_eq_one_iff hbus).2 hone,
        Option.bind_eq_bind, Option.bind_some, if_true, List.map_cons, htile]
      rfl
    · obtain rfl : k = 0 := by omega
      rw [htile, Slice.part]
      simp
  · have hmore : 1 < bus.wordCount r.width := by omega
    have hmem (k : ℕ) : k ∈ order ↔ k < bus.wordCount r.width := by
      rw [horder.mem_iff, List.mem_range]
    refine ⟨order, fun k => (bus.tile r.width start k).part value, ?_, hmem, fun k _ =>
      Slice.part_and_mask _ value⟩
    have hsize : (bus.wordCount r.width).toUInt64 ≠ 1 := mt (size_eq_one_iff hbus).1 hone
    simp only [writes?, hd.size, hsize, Option.bind_eq_bind, Option.bind_some, if_false]
    refine mapM_eq_pure fun k hk => ?_
    rw [wordDefines?_eq hd hbus hr hmore ((hmem k).1 hk)]
    rfl

lemma foldlM_congr_mem {m : Type → Type} [Monad m] {α β : Type} {f g : β → α → m β} {xs : List α}
    (h : ∀ x ∈ xs, ∀ y, f y x = g y x) (y : β) : xs.foldlM f y = xs.foldlM g y := by
  induction xs generalizing y with
  | nil => rfl
  | cons x xs ih =>
    rw [List.foldlM_cons, List.foldlM_cons, h x (by simp)]
    exact congrArg _ (funext fun z => ih (fun x hx => h x (by simp [hx])) z)

/-- What the reads give together is the value of the register. -/
lemma readBack?_eq {soc : Soc} {v : Values} {b : Bank} {i j : ℕ}
    (hd : Describes table stem soc.bus r start) (h : soc.Finished)
    (hosts : soc.bus.Hosts soc.banks i j b r start) (hle : v (b.name, r.name) ≤ r.mask) :
    readBack? table stem (soc.holding v) = some (v (b.name, r.name)) := by
  have hwf := hosts.wellFormed h.fits
  have hpos := wordCount_pos h.sound.dataWidth_pos hwf.width_pos
  by_cases hone : soc.bus.wordCount r.width = 1
  · have hread := Soc.read_of_wordCount_eq_one h hosts hone hle
    simp only [readBack?, hd.size, hd.address, (size_eq_one_iff h.sound).2 hone,
      Option.bind_eq_bind, Option.bind_some, if_true, hread]
    rfl
  · have hmore : 1 < soc.bus.wordCount r.width := by omega
    have hsize : (soc.bus.wordCount r.width).toUInt64 ≠ 1 := mt (size_eq_one_iff h.sound).1 hone
    have hgather := gather_value h.sound.dataWidth_pos hwf.width_le hle start
    rw [tiles, List.foldlM_map] at hgather
    simp only [readBack?, hd.size, hsize, Option.bind_eq_bind, Option.bind_some, if_false,
      toNat_size h.sound]
    rw [← hgather]
    refine foldlM_congr_mem (fun k hk value => ?_) 0
    have hk := List.mem_range.1 hk
    have hread := Soc.read_of_wordAt h v (hosts.wordAt h.fits hk)
    have hin := inWord_of_wellFormed h.sound hwf hk start
    rw [wordDefines?_eq hd h.sound hwf hmore hk]
    simp only [Option.bind_some, hread, Slice.place_eq_some hin,
      Option.map_eq_map, Option.map_some]
    rfl

end Header.Describes

namespace Soc

variable {d : Declarations} {bus : BusGeometry} {soc : Soc} {options : Options}

/-- The text of a header leads to the registers in every state whose values fit. -/
lemma drives_holding (h : soc.Finished) (hnamed : soc.declarations.Named)
    (hguard : IsWord options.guardSymbol) {v : Values} (hv : ∀ i j b r start,
      soc.bus.Hosts soc.banks i j b r start → v (b.name, r.name) ≤ r.mask) :
    Drives (render (items soc options)) soc (soc.holding v) := by
  have htable := numericDefines_render (readable_items h hnamed hguard)
  refine
    { apart := ?apart
      write := fun bank register r p hfound hr => ?write
      read := fun bank register r p hfound => ?read }
  case apart =>
    rw [htable]
    exact (nodup_symbols h).sublist (map_fst_entries_sublist h hnamed options)
  all_goals
    obtain ⟨i, j, b, r, start, hosts, rfl, rfl, heq⟩ := (register?_eq_some_iff h).1 hfound
    cases heq
    have hdescribes := describes_entries h options hnamed hosts
    have hle := hv i j b r start hosts
    rw [htable]
  case write =>
    refine ⟨_, hdescribes.size, fun value order horder => ?_⟩
    rw [Describes.toNat_size h.sound] at horder
    obtain ⟨indices, word, hwrites, hindices, hword⟩ :=
      hdescribes.exists_writes? h.sound (hosts.wellFormed h.fits) value horder
    have hrun := write_value h hosts hr hword hindices hle
    refine ⟨_, _, hwrites, hrun, ?_, fun bank register hne => value?_holding_update h v hne _⟩
    rw [value?_of_hosts h _ hosts, Function.update_self]
  case read =>
    exact ⟨_, hdescribes.readBack?_eq h hosts hle, value?_of_hosts h v hosts⟩

/-- **A header is enough to drive its system**: in every state that the bus model reaches, the
numbers of its text lead to the words of each register, which then hold what was written. -/
theorem header_drives (hd : d.Reachable) (h : d.complete bus = .ok soc)
    (hguard : IsIdentifier options.guardSymbol) :
    ∃ text, soc.header options = .ok text ∧
      ∀ ops, Drives text soc ((BusModel.ofSoc soc).run ops) := by
  have hfinished := Declarations.finished_of_complete h
  have hnamed : soc.declarations.Named := by
    rw [Declarations.declarations_of_complete h]
    exact hd.named
  refine ⟨_, header_eq_ok h options, fun ops => ?_⟩
  obtain ⟨v, hrun, hv⟩ := exists_follows hfinished ops
  rw [hrun]
  exact drives_holding hfinished hnamed hguard.word hv.le_mask

/-- A storage register of two words and a status register, with an interrupt and a constant. -/
theorem header_drives_two_registers : ∃ soc text,
    ({ banks := [⟨"a", [⟨"r", 40, .storage, [], 7, none⟩, ⟨"s", 8, .status, [], 1, none⟩]⟩]
       interrupts := ⟨[⟨"ev", "a", 0⟩]⟩
       constants := [⟨"N", .int 5⟩] } : Declarations).complete {} = .ok soc ∧
    soc.header {} = .ok text ∧
    ∀ ops, Drives text soc ((BusModel.ofSoc soc).run ops) := by
  have hbank : Declarations.Reachable
      { banks := [⟨"a", [⟨"r", 40, .storage, [], 7, none⟩, ⟨"s", 8, .status, [], 1, none⟩]⟩] } :=
    @Declarations.Reachable.bank _ _ "a"
      [⟨"r", 40, .storage, [], 7, none⟩, ⟨"s", 8, .status, [], 1, none⟩] 0 .empty
      (by decide +kernel)
  have hinterrupt : Declarations.Reachable
      { banks := [⟨"a", [⟨"r", 40, .storage, [], 7, none⟩, ⟨"s", 8, .status, [], 1, none⟩]⟩]
        interrupts := ⟨[⟨"ev", "a", 0⟩]⟩ } :=
    @Declarations.Reachable.interrupt _ _ "ev" "a" 0 hbank (by decide +kernel)
  have hconstant : Declarations.Reachable
      { banks := [⟨"a", [⟨"r", 40, .storage, [], 7, none⟩, ⟨"s", 8, .status, [], 1, none⟩]⟩]
        interrupts := ⟨[⟨"ev", "a", 0⟩]⟩
        constants := [⟨"N", .int 5⟩] } :=
    @Declarations.Reachable.constant _ _ "N" (.int 5) hinterrupt (by decide +kernel)
  have h : ({ banks := [⟨"a", [⟨"r", 40, .storage, [], 7, none⟩,
        ⟨"s", 8, .status, [], 1, none⟩]⟩]
              interrupts := ⟨[⟨"ev", "a", 0⟩]⟩
              constants := [⟨"N", .int 5⟩] } : Declarations).complete {}
      = .ok ⟨{}, [⟨"a", [⟨"r", 40, .storage, [], 7, none⟩, ⟨"s", 8, .status, [], 1, none⟩]⟩],
        ⟨0, 12, [⟨"a", 0, 12, [⟨"r", .storage, 40, 0, [⟨0, 32, 8⟩, ⟨4, 0, 32⟩]⟩,
          ⟨"s", .status, 8, 8, [⟨8, 0, 8⟩]⟩]⟩]⟩, ⟨[⟨"ev", "a", 0⟩]⟩, [], [⟨"N", .int 5⟩]⟩ := by
    decide +kernel
  have hguard : IsIdentifier ({} : Options).guardSymbol := ⟨by decide, by decide, by decide⟩
  obtain ⟨text, htext, hdrives⟩ := header_drives hconstant h hguard
  exact ⟨_, text, h, htext, hdrives⟩

end Soc

end CsrMap
