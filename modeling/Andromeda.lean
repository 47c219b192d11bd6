import Andromeda.Fallible
import Andromeda.Machine
import Andromeda.Uint128
import Andromeda.Cosmos
import Andromeda.Messages
import Andromeda.Ownership
import Andromeda.ModuleHooks
import Andromeda.ModuleCommon
import Andromeda.ModuleContracts
import Andromeda.ModuleFees
import Andromeda.Modules
import Andromeda.HookFanOut
import Andromeda.AddressListContract
import Andromeda.ReceiptContract
import Andromeda.ReceiptRuns
import Andromeda.Transaction
import Andromeda.ModuleInstall
import Andromeda.Fees
import Andromeda.Settlement
import Andromeda.ModuleValidation
import Andromeda.SplitterContract
import Andromeda.SplitterSteps
import Andromeda.SplitterLock
import Andromeda.FloorShares
import Andromeda.SplitterSend
import Andromeda.SplitterShares
import Andromeda.Table
import Andromeda.Since
import Andromeda.Register
import Andromeda.TimelockContract
import Andromeda.Token
import Andromeda.TokenContract
import Andromeda.FactoryContract
import Andromeda.FactorySteps
import Andromeda.TokenSteps
import Andromeda.TokenHandlers
import Andromeda.TokenAuthority
import Andromeda.TokenArchive
import Andromeda.TokenRights
import Andromeda.TokenFunds
import Andromeda.AgreementReceipt
import Andromeda.TokenMessages
import Andromeda.ModuleAddresses
import Andromeda.ContractModules
import Andromeda.TokenReservation
import Andromeda.TokenCount
import Andromeda.TokenDelegation
import Andromeda.TokenLedger
import Andromeda.TokenRefinement
import Andromeda.TokensApart
import Andromeda.TokenRecord
import Andromeda.TokenSales
import Andromeda.Paging
import Andromeda.TokenOperators
import Andromeda.TimelockSteps
import Andromeda.Administration
import Andromeda.TimelockLedger
import Andromeda.TimelockRelease
import Andromeda.Separation
import Andromeda.Refinement
import Andromeda.TimelockDepositors
import Andromeda.ModuleRejection
import Andromeda.ModulesAssigned
import Andromeda.AccessGate
import Andromeda.FactoryRegistry
import Andromeda.ReceiptAuthority
import Andromeda.TokenQueries
import Andromeda.Bank
import Andromeda.ContractQueries
import Andromeda.Chain
import Andromeda.ChainStates
import Andromeda.ChainTimelocks
import Andromeda.ChainCreation
import Andromeda.ChainPayments
import Andromeda.ChainSplitter
import Andromeda.ChainKeeps
import Andromeda.ChainLives
import Andromeda.ChainRights
import Andromeda.ChainGovernance
import Andromeda.ChainRegistry
import Andromeda.ChainSales
import Andromeda.ChainReceipts
