-- The numeric statuses of the native library. Zero is success, every other
-- known number names a cause of failure, and a number outside the table is an
-- unknown native error.

namespace PendingCalls

-- Coarse grouping of statuses.
inductive Category where
  | success
  | invalidParameter
  | invalidState
  | io
  | notFound
  | alreadyExists
  | consensusOrTimeout
  | crypto
  | walletStorage
  | payment
  | unknown
deriving DecidableEq, Inhabited

namespace Category

-- In the order in which messages list them.
def all : List Category :=
  [.success, .invalidParameter, .invalidState, .io, .notFound, .alreadyExists, .consensusOrTimeout, 
    .crypto, .walletStorage, .payment, .unknown]

def name : Category → String
  | .success => "Success"
  | .invalidParameter => "InvalidParameter"
  | .invalidState => "InvalidState"
  | .io => "Io"
  | .notFound => "NotFound"
  | .alreadyExists => "AlreadyExists"
  | .consensusOrTimeout => "ConsensusOrTimeout"
  | .crypto => "Crypto"
  | .walletStorage => "WalletStorage"
  | .payment => "Payment"
  | .unknown => "Unknown"

end Category

inductive Status where
  | success
  | commonInvalidParam1
  | commonInvalidParam2
  | commonInvalidParam3
  | commonInvalidParam4
  | commonInvalidParam5
  | commonInvalidParam6
  | commonInvalidParam7
  | commonInvalidParam8
  | commonInvalidParam9
  | commonInvalidParam10
  | commonInvalidParam11
  | commonInvalidParam12
  | commonInvalidState
  | commonInvalidStructure
  | commonIOError
  | commonInvalidParam13
  | commonInvalidParam14
  | commonInvalidParam15
  | commonInvalidParam16
  | commonInvalidParam17
  | commonInvalidParam18
  | commonInvalidParam19
  | commonInvalidParam20
  | commonInvalidParam21
  | commonInvalidParam22
  | commonInvalidParam23
  | commonInvalidParam24
  | commonInvalidParam25
  | commonInvalidParam26
  | commonInvalidParam27
  | walletInvalidHandle
  | walletUnknownTypeError
  | walletTypeAlreadyRegisteredError
  | walletAlreadyExistsError
  | walletNotFoundError
  | walletIncompatiblePoolError
  | walletAlreadyOpenedError
  | walletAccessFailed
  | walletInputError
  | walletDecodingError
  | walletStorageError
  | walletEncryptionError
  | walletItemNotFound
  | walletItemAlreadyExists
  | walletQueryError
  | poolLedgerNotCreatedError
  | poolLedgerInvalidPoolHandle
  | poolLedgerTerminated
  | ledgerNoConsensusError
  | ledgerInvalidTransaction
  | ledgerSecurityError
  | poolLedgerConfigAlreadyExistsError
  | poolLedgerTimeout
  | poolIncompatibleProtocolVersion
  | ledgerNotFound
  | anoncredsRevocationRegistryFullError
  | anoncredsInvalidUserRevocId
  | anoncredsMasterSecretDuplicateNameError
  | anoncredsProofRejected
  | anoncredsCredentialRevoked
  | anoncredsCredDefAlreadyExistsError
  | unknownCryptoTypeError
  | didAlreadyExistsError
  | paymentUnknownMethodError
  | paymentIncompatibleMethodsError
  | paymentInsufficientFundsError
  | paymentSourceDoesNotExistError
  | paymentOperationNotSupportedError
  | paymentExtraFundsError
  | transactionNotAllowedError
  | unknownNativeError
deriving DecidableEq, Inhabited

structure StatusRow where
  status : Status
  value : Int32
  category : Category
  name : String
  description : String

namespace Status

def row : Status → StatusRow
  | .success => ⟨.success, 0, .success, "Success",
      "Success"⟩
  | .commonInvalidParam1 => ⟨.commonInvalidParam1, 100, .invalidParameter, "CommonInvalidParam1",
      "Invalid value for parameter 1"⟩
  | .commonInvalidParam2 => ⟨.commonInvalidParam2, 101, .invalidParameter, "CommonInvalidParam2",
      "Invalid value for parameter 2"⟩
  | .commonInvalidParam3 => ⟨.commonInvalidParam3, 102, .invalidParameter, "CommonInvalidParam3",
      "Invalid value for parameter 3"⟩
  | .commonInvalidParam4 => ⟨.commonInvalidParam4, 103, .invalidParameter, "CommonInvalidParam4",
      "Invalid value for parameter 4"⟩
  | .commonInvalidParam5 => ⟨.commonInvalidParam5, 104, .invalidParameter, "CommonInvalidParam5",
      "Invalid value for parameter 5"⟩
  | .commonInvalidParam6 => ⟨.commonInvalidParam6, 105, .invalidParameter, "CommonInvalidParam6",
      "Invalid value for parameter 6"⟩
  | .commonInvalidParam7 => ⟨.commonInvalidParam7, 106, .invalidParameter, "CommonInvalidParam7",
      "Invalid value for parameter 7"⟩
  | .commonInvalidParam8 => ⟨.commonInvalidParam8, 107, .invalidParameter, "CommonInvalidParam8",
      "Invalid value for parameter 8"⟩
  | .commonInvalidParam9 => ⟨.commonInvalidParam9, 108, .invalidParameter, "CommonInvalidParam9",
      "Invalid value for parameter 9"⟩
  | .commonInvalidParam10 => ⟨.commonInvalidParam10, 109, .invalidParameter, "CommonInvalidParam10",
      "Invalid value for parameter 10"⟩
  | .commonInvalidParam11 => ⟨.commonInvalidParam11, 110, .invalidParameter, "CommonInvalidParam11",
      "Invalid value for parameter 11"⟩
  | .commonInvalidParam12 => ⟨.commonInvalidParam12, 111, .invalidParameter, "CommonInvalidParam12",
      "Invalid value for parameter 12"⟩
  | .commonInvalidState => ⟨.commonInvalidState, 112, .invalidState, "CommonInvalidState",
      "Invalid library state"⟩
  | .commonInvalidStructure => ⟨.commonInvalidStructure, 113, .invalidParameter, "CommonInvalidStructure",
      "Object passed by the caller has an invalid structure"⟩
  | .commonIOError => ⟨.commonIOError, 114, .io, "CommonIOError",
      "IO error"⟩
  | .commonInvalidParam13 => ⟨.commonInvalidParam13, 115, .invalidParameter, "CommonInvalidParam13",
      "Invalid value for parameter 13"⟩
  | .commonInvalidParam14 => ⟨.commonInvalidParam14, 116, .invalidParameter, "CommonInvalidParam14",
      "Invalid value for parameter 14"⟩
  | .commonInvalidParam15 => ⟨.commonInvalidParam15, 117, .invalidParameter, "CommonInvalidParam15",
      "Invalid value for parameter 15"⟩
  | .commonInvalidParam16 => ⟨.commonInvalidParam16, 118, .invalidParameter, "CommonInvalidParam16",
      "Invalid value for parameter 16"⟩
  | .commonInvalidParam17 => ⟨.commonInvalidParam17, 119, .invalidParameter, "CommonInvalidParam17",
      "Invalid value for parameter 17"⟩
  | .commonInvalidParam18 => ⟨.commonInvalidParam18, 120, .invalidParameter, "CommonInvalidParam18",
      "Invalid value for parameter 18"⟩
  | .commonInvalidParam19 => ⟨.commonInvalidParam19, 121, .invalidParameter, "CommonInvalidParam19",
      "Invalid value for parameter 19"⟩
  | .commonInvalidParam20 => ⟨.commonInvalidParam20, 122, .invalidParameter, "CommonInvalidParam20",
      "Invalid value for parameter 20"⟩
  | .commonInvalidParam21 => ⟨.commonInvalidParam21, 123, .invalidParameter, "CommonInvalidParam21",
      "Invalid value for parameter 21"⟩
  | .commonInvalidParam22 => ⟨.commonInvalidParam22, 124, .invalidParameter, "CommonInvalidParam22",
      "Invalid value for parameter 22"⟩
  | .commonInvalidParam23 => ⟨.commonInvalidParam23, 125, .invalidParameter, "CommonInvalidParam23",
      "Invalid value for parameter 23"⟩
  | .commonInvalidParam24 => ⟨.commonInvalidParam24, 126, .invalidParameter, "CommonInvalidParam24",
      "Invalid value for parameter 24"⟩
  | .commonInvalidParam25 => ⟨.commonInvalidParam25, 127, .invalidParameter, "CommonInvalidParam25",
      "Invalid value for parameter 25"⟩
  | .commonInvalidParam26 => ⟨.commonInvalidParam26, 128, .invalidParameter, "CommonInvalidParam26",
      "Invalid value for parameter 26"⟩
  | .commonInvalidParam27 => ⟨.commonInvalidParam27, 129, .invalidParameter, "CommonInvalidParam27",
      "Invalid value for parameter 27"⟩
  | .walletInvalidHandle => ⟨.walletInvalidHandle, 200, .invalidParameter, "WalletInvalidHandle",
      "Invalid wallet handle"⟩
  | .walletUnknownTypeError => ⟨.walletUnknownTypeError, 201, .walletStorage, "WalletUnknownTypeError",
      "Unknown wallet storage type"⟩
  | .walletTypeAlreadyRegisteredError => ⟨.walletTypeAlreadyRegisteredError, 202, .alreadyExists, "WalletTypeAlreadyRegisteredError",
      "Wallet storage type already registered"⟩
  | .walletAlreadyExistsError => ⟨.walletAlreadyExistsError, 203, .alreadyExists, "WalletAlreadyExistsError",
      "Wallet with this name already exists"⟩
  | .walletNotFoundError => ⟨.walletNotFoundError, 204, .notFound, "WalletNotFoundError",
      "Wallet not found"⟩
  | .walletIncompatiblePoolError => ⟨.walletIncompatiblePoolError, 205, .invalidState, "WalletIncompatiblePoolError",
      "Wallet is bound to a different pool"⟩
  | .walletAlreadyOpenedError => ⟨.walletAlreadyOpenedError, 206, .invalidState, "WalletAlreadyOpenedError",
      "Wallet already opened"⟩
  | .walletAccessFailed => ⟨.walletAccessFailed, 207, .walletStorage, "WalletAccessFailed",
      "Wallet access failed, invalid credentials"⟩
  | .walletInputError => ⟨.walletInputError, 208, .walletStorage, "WalletInputError",
      "Invalid input to wallet operation"⟩
  | .walletDecodingError => ⟨.walletDecodingError, 209, .walletStorage, "WalletDecodingError",
      "Wallet data could not be decoded"⟩
  | .walletStorageError => ⟨.walletStorageError, 210, .walletStorage, "WalletStorageError",
      "Wallet storage failure"⟩
  | .walletEncryptionError => ⟨.walletEncryptionError, 211, .crypto, "WalletEncryptionError",
      "Wallet encryption failure"⟩
  | .walletItemNotFound => ⟨.walletItemNotFound, 212, .notFound, "WalletItemNotFound",
      "Wallet item not found"⟩
  | .walletItemAlreadyExists => ⟨.walletItemAlreadyExists, 213, .alreadyExists, "WalletItemAlreadyExists",
      "Wallet item already exists"⟩
  | .walletQueryError => ⟨.walletQueryError, 214, .walletStorage, "WalletQueryError",
      "Invalid wallet query"⟩
  | .poolLedgerNotCreatedError => ⟨.poolLedgerNotCreatedError, 300, .notFound, "PoolLedgerNotCreatedError",
      "Pool ledger config not created"⟩
  | .poolLedgerInvalidPoolHandle => ⟨.poolLedgerInvalidPoolHandle, 301, .invalidParameter, "PoolLedgerInvalidPoolHandle",
      "Invalid pool handle"⟩
  | .poolLedgerTerminated => ⟨.poolLedgerTerminated, 302, .invalidState, "PoolLedgerTerminated",
      "Pool ledger terminated"⟩
  | .ledgerNoConsensusError => ⟨.ledgerNoConsensusError, 303, .consensusOrTimeout, "LedgerNoConsensusError",
      "No consensus during ledger operation"⟩
  | .ledgerInvalidTransaction => ⟨.ledgerInvalidTransaction, 304, .invalidParameter, "LedgerInvalidTransaction",
      "Invalid ledger transaction"⟩
  | .ledgerSecurityError => ⟨.ledgerSecurityError, 305, .crypto, "LedgerSecurityError",
      "Insufficient privileges for ledger transaction"⟩
  | .poolLedgerConfigAlreadyExistsError => ⟨.poolLedgerConfigAlreadyExistsError, 306, .alreadyExists, "PoolLedgerConfigAlreadyExistsError",
      "Pool ledger config already exists"⟩
  | .poolLedgerTimeout => ⟨.poolLedgerTimeout, 307, .consensusOrTimeout, "PoolLedgerTimeout",
      "Pool ledger timeout"⟩
  | .poolIncompatibleProtocolVersion => ⟨.poolIncompatibleProtocolVersion, 308, .invalidState, "PoolIncompatibleProtocolVersion",
      "Incompatible pool protocol version"⟩
  | .ledgerNotFound => ⟨.ledgerNotFound, 309, .notFound, "LedgerNotFound",
      "Item not found on ledger"⟩
  | .anoncredsRevocationRegistryFullError => ⟨.anoncredsRevocationRegistryFullError, 400, .invalidState, "AnoncredsRevocationRegistryFullError",
      "Revocation registry is full"⟩
  | .anoncredsInvalidUserRevocId => ⟨.anoncredsInvalidUserRevocId, 401, .invalidParameter, "AnoncredsInvalidUserRevocId",
      "Invalid user revocation id"⟩
  | .anoncredsMasterSecretDuplicateNameError => ⟨.anoncredsMasterSecretDuplicateNameError, 404, .alreadyExists, "AnoncredsMasterSecretDuplicateNameError",
      "Master secret with this name already exists"⟩
  | .anoncredsProofRejected => ⟨.anoncredsProofRejected, 405, .crypto, "AnoncredsProofRejected",
      "Proof rejected"⟩
  | .anoncredsCredentialRevoked => ⟨.anoncredsCredentialRevoked, 406, .invalidState, "AnoncredsCredentialRevoked",
      "Credential revoked"⟩
  | .anoncredsCredDefAlreadyExistsError => ⟨.anoncredsCredDefAlreadyExistsError, 407, .alreadyExists, "AnoncredsCredDefAlreadyExistsError",
      "Credential definition already exists"⟩
  | .unknownCryptoTypeError => ⟨.unknownCryptoTypeError, 500, .crypto, "UnknownCryptoTypeError",
      "Unknown crypto type"⟩
  | .didAlreadyExistsError => ⟨.didAlreadyExistsError, 600, .alreadyExists, "DidAlreadyExistsError",
      "DID already exists"⟩
  | .paymentUnknownMethodError => ⟨.paymentUnknownMethodError, 700, .payment, "PaymentUnknownMethodError",
      "Unknown payment method"⟩
  | .paymentIncompatibleMethodsError => ⟨.paymentIncompatibleMethodsError, 701, .payment, "PaymentIncompatibleMethodsError",
      "Incompatible payment methods"⟩
  | .paymentInsufficientFundsError => ⟨.paymentInsufficientFundsError, 702, .payment, "PaymentInsufficientFundsError",
      "Insufficient funds on inputs"⟩
  | .paymentSourceDoesNotExistError => ⟨.paymentSourceDoesNotExistError, 703, .payment, "PaymentSourceDoesNotExistError",
      "Payment source does not exist"⟩
  | .paymentOperationNotSupportedError => ⟨.paymentOperationNotSupportedError, 704, .payment, "PaymentOperationNotSupportedError",
      "Operation not supported by payment method"⟩
  | .paymentExtraFundsError => ⟨.paymentExtraFundsError, 705, .payment, "PaymentExtraFundsError",
      "Extra funds on inputs"⟩
  | .transactionNotAllowedError => ⟨.transactionNotAllowedError, 706, .payment, "TransactionNotAllowedError",
      "Transaction not allowed for requester"⟩
  | .unknownNativeError => ⟨.unknownNativeError, -1, .unknown, "UnknownNativeError",
      "Unrecognized native error code"⟩

-- The known statuses in the order of their declaration, which is the order of
-- their values too.
def known : List Status :=
  [.success, .commonInvalidParam1, .commonInvalidParam2, .commonInvalidParam3,
    .commonInvalidParam4, .commonInvalidParam5, .commonInvalidParam6, .commonInvalidParam7,
    .commonInvalidParam8, .commonInvalidParam9, .commonInvalidParam10, .commonInvalidParam11,
    .commonInvalidParam12, .commonInvalidState, .commonInvalidStructure, .commonIOError,
    .commonInvalidParam13, .commonInvalidParam14, .commonInvalidParam15, .commonInvalidParam16,
    .commonInvalidParam17, .commonInvalidParam18, .commonInvalidParam19, .commonInvalidParam20,
    .commonInvalidParam21, .commonInvalidParam22, .commonInvalidParam23, .commonInvalidParam24,
    .commonInvalidParam25, .commonInvalidParam26, .commonInvalidParam27, .walletInvalidHandle,
    .walletUnknownTypeError, .walletTypeAlreadyRegisteredError, .walletAlreadyExistsError,
    .walletNotFoundError, .walletIncompatiblePoolError, .walletAlreadyOpenedError,
    .walletAccessFailed, .walletInputError, .walletDecodingError, .walletStorageError,
    .walletEncryptionError, .walletItemNotFound, .walletItemAlreadyExists, .walletQueryError,
    .poolLedgerNotCreatedError, .poolLedgerInvalidPoolHandle, .poolLedgerTerminated,
    .ledgerNoConsensusError, .ledgerInvalidTransaction, .ledgerSecurityError,
    .poolLedgerConfigAlreadyExistsError, .poolLedgerTimeout, .poolIncompatibleProtocolVersion,
    .ledgerNotFound, .anoncredsRevocationRegistryFullError, .anoncredsInvalidUserRevocId,
    .anoncredsMasterSecretDuplicateNameError, .anoncredsProofRejected,
    .anoncredsCredentialRevoked, .anoncredsCredDefAlreadyExistsError, .unknownCryptoTypeError,
    .didAlreadyExistsError, .paymentUnknownMethodError, .paymentIncompatibleMethodsError,
    .paymentInsufficientFundsError, .paymentSourceDoesNotExistError,
    .paymentOperationNotSupportedError, .paymentExtraFundsError, .transactionNotAllowedError]

def all : List Status := known ++ [.unknownNativeError]

def value (s : Status) : Int32 := s.row.value

def category (s : Status) : Category := s.row.category

def name (s : Status) : String := s.row.name

def description (s : Status) : String := s.row.description

-- The known status with a given value. Minus one is not in the table: it is
-- only the value that the unknown error itself carries.
def lookup (raw : Int32) : Status :=
  (known.find? (fun s => s.value = raw)).getD .unknownNativeError

def isSuccess (s : Status) : Bool := s = .success

def text (s : Status) : String := s.name ++ ": " ++ s.description

def successRaw : Int32 := 0

-- The statuses that values in an inclusive range stand for, unknown ones left out.
def inRange (low high : Int32) : List (Int32 × Status) :=
  (known.filter (fun s => low ≤ s.value && s.value ≤ high)).map (fun s => (s.value, s))

end Status

end PendingCalls
