import CppSerializers.Reference.ThriftTransfer

/-!
# The numbers that Thrift's generated code returns

`Record::read` and `Record::write` return how many bytes they transferred, modulo `2^32`,
as long as the calls of the protocol do. For `read` this is so on every input, whatever
fields it has and in whatever order they come.

## Main results

* `write_returns_size`, `read_returns_size` — a record is a call like those it is made of
* `read_returns_written` — reading returns what writing returned
-/

namespace CppSerializers.Thrift

open Foundation Reference.Thrift

variable {Q : CountingProtocol} {Inside : Q.State → Q.State → Prop}

/-- **`Record::write` returns the size** of what it writes, and `xfer` changes nothing of that. -/
theorem write_returns_size (h : Q.Reports) (r : Record) :
    (Q.write r).plain = Thrift.write Q.plain r ∧ (Q.write r).Reports transferred :=
  ⟨(h.write_meters r).plain_counting, (h.write_meters r).reports⟩

/-- An integer and a string over the binary protocol. -/
theorem write_returns_size_binary :
    (countingBinary.write ⟨[1], [lit "a"]⟩).plain =
        Thrift.write countingBinary.plain ⟨[1], [lit "a"]⟩ ∧
      (countingBinary.write ⟨[1], [lit "a"]⟩).Reports transferred :=
  write_returns_size countingBinary_reports ⟨[1], [lit "a"]⟩

/-- **`Record::read` returns the size** of what it reads, whatever that is, and `xfer` changes
nothing of the record, of the exceptions or of what is left of the input. -/
theorem read_returns_size (h : Q.Reports) (target : Record) :
    (Q.read target).plain = Thrift.read Q.plain target ∧ (Q.read target).Reports transferred :=
  ⟨(h.read_meters target).plain_counting, (h.read_meters target).reports⟩

theorem read_returns_size_binary :
    (countingBinary.read {}).plain = Thrift.read countingBinary.plain {} ∧
      (countingBinary.read {}).Reports transferred :=
  read_returns_size countingBinary_reports {}

/-- **Reading returns what writing returned**, for every record the protocol carries. -/
theorem read_returns_written (h : Q.Reports) (hstep : Q.plain.InStep Inside) {r : Record}
    (hr : r.FitsIn Q.maxLength) (target : Record) (rest : StdString) :
    ((Q.read target).run Q.fresh).run ((Q.write r Q.fresh).2.1 ++ rest) =
      .ok ((((Q.write r Q.fresh).1, r), Q.fresh), rest) := by
  have hwrite : (Q.write r Q.fresh).2.1 = Q.plain.codec.encode r :=
    congrArg Prod.fst (congrFun (h.write_meters r).plain_counting Q.fresh)
  have hread := (hstep.roundTrips hr).recognises target rest
  rw [← hwrite] at hread
  -- The record is read, and with it comes the difference between before and after.
  have hplain : ((Q.read target).plain.run Q.fresh).run ((Q.write r Q.fresh).2.1 ++ rest) =
      .ok ((r, Q.fresh), rest) :=
    (congrFun (congrFun (h.read_meters target).plain_counting Q.fresh) _).trans hread
  have hcount := (h.read_meters target).reports.run_eq hplain
  have hsize : (Q.write r Q.fresh).1 = transferred (Q.write r Q.fresh).2.1.length :=
    (h.write_meters r).reports Q.fresh
  rw [List.length_append, Nat.add_sub_cancel, ← hsize] at hcount
  exact hcount

/-- Two fields of three bytes, two lists of five, an integer of eight, a string of five, and the
stop. -/
theorem read_returns_written_binary :
    ((countingBinary.read { ids := [7] }).run ()).run
        ((countingBinary.write ⟨[1], [lit "a"]⟩ ()).2.1 ++ [255]) =
      .ok (((30, ⟨[1], [lit "a"]⟩), ()), [255]) := by
  obtain ⟨_, hstep⟩ : ∃ Inside, countingBinary.plain.InStep Inside := by
    rw [plain_countingBinary]
    exact ⟨_, binaryProtocol_inStep⟩
  have hlength : 1 ≤ binaryProtocol.maxLength := by decide
  have hfits : (⟨[1], [lit "a"]⟩ : Record).FitsIn countingBinary.maxLength :=
    ⟨hlength, hlength, List.forall_mem_singleton.mpr hlength⟩
  exact read_returns_written countingBinary_reports hstep hfits { ids := [7] } [255]

end CppSerializers.Thrift
