import Disbursement.Bytes

/-!
# Known addresses

The programs the library works with, and the zero address, which doubles as the mint of the native
asset.
-/

namespace Disbursement.Address

/-- This program. -/
def program : Address :=
  Bytes32.ofNatBE 0x62ef721291587f73e57d54c8f04907770699345b1c2e4a40928c9cb1c4ceca3f

/-- The system program, which owns every account that no other program has taken. -/
def systemProgram : Address :=
  Bytes32.zero

/-- The token program, which owns the token accounts. -/
def tokenProgram : Address :=
  Bytes32.ofNatBE 0x06ddf6e1d765a193d9cbe146ceeb79ac1cb485ed5f5b37913a8cf5857eff00a9

/-- The program that places each holder's token account for a mint at a derived address. -/
def associatedTokenProgram : Address :=
  Bytes32.ofNatBE 0x8c97258f4e2489f1bb3d1029148e0d830b5a1399daff1084048e7bd8dbe9f859

/-- The program that keeps the metadata of tokens. -/
def metadataProgram : Address :=
  Bytes32.ofNatBE 0x0b7065b1e3d17c45389d527f6b04c3cd58b86c731aa0fdb549b6d1bc03f82946

/-- The mint that stands for lamports: an amount of this mint is paid in the native asset. -/
def nativeMint : Address :=
  systemProgram

end Disbursement.Address
